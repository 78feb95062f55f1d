import KeliNative.Framing.RoundTrip

/-!
# Round trips of the Mieru streams

The data of a peer's segments reads out up to the first close, and no nonce seals twice.
-/

namespace KeliNative.Framing.MieruTcpStream
open Mieru List

variable {close : UInt32 → Bool} {aead : MieruAead} {minutes : ℕ → UInt32}

def new (nonce : MieruNonce) (sessionId : UInt32) (inner : InnerStream) : MieruTcpStream :=
  ⟨[], 0, ⟨none, nonce, sessionId, 0, [], false, 0⟩, inner⟩

/-- The data of segments of these types and payloads, up to the first close. -/
def dataOf : List (UInt8 × Bytes) → Bytes
  | [] => []
  | (protocolType, payload) :: rest =>
    if protocolType = dataServerToClient ∨ protocolType = dataClientToServer then
      payload ++ dataOf rest
    else if protocolType = closeSessionRequest ∨ protocolType = closeSessionResponse then []
    else dataOf rest

def Segment.content (segment : Segment close) : UInt8 × Bytes :=
  (segment.segment.metadata.protocolType, segment.segment.payload)

theorem holds_dataOf (segments : List (Segment close)) :
    (layer close).Holds segments .eof (dataOf (segments.map Segment.content)) := by
  induction segments with
  | nil => exact .nil rfl
  | cons seg segments ih =>
    have hmean : (layer close).meaning seg =
        meaningOf seg.content.1 seg.content.2 := rfl
    rw [map_cons]
    generalize seg.content = content at hmean ⊢
    obtain ⟨kind, payload⟩ := content
    dsimp only at hmean
    rw [dataOf]
    rw [meaningOf] at hmean
    split_ifs at hmean with hdata hempty hclose
    · rw [if_pos hdata, hempty]
      exact .skip hmean ih
    · rw [if_pos hdata]
      exact .data hmean hempty ih
    · rw [if_neg hdata, if_pos hclose]
      exact .closed hmean rfl
    · rw [if_neg hdata, if_neg hclose]
      exact .skip hmean ih

variable {segments : List (Segment close)}

theorem arriving_new {wire : Wire} (hfirst : wire.first = true) {below : InnerStream}
    (h : Fed ((codec close aead).encodeAll wire segments) below) (nonce : MieruNonce)
    (sessionId : UInt32) : Arriving close aead wire segments (new nonce sessionId below) where
  blocks error hmem := by
    have hnone := countP_eq_zero.mp h.1.countP_isFailed _ hmem
    exact absurd rfl hnone
  nonce := by
    rw [Wire.Read, hfirst]
    rfl
  bytes := by
    rw [← h.1.filterMap_eq]
    rfl

theorem reads_segments {nonce : MieruNonce} {below : InnerStream}
    (hfed : Fed ((codec close aead).encodeAll ⟨nonce, true⟩ segments) below)
    (nonce₀ : MieruNonce) (readerId : UInt32) {lens : List ℕ} (hlens : ∀ len ∈ lens, 0 < len) :
    ReadsOut (dataOf (segments.map Segment.content))
      (callReads (read close aead) lens (new nonce₀ readerId below)) := by
  have harriving : Arriving close aead ⟨nonce, true⟩ segments (new nonce₀ readerId below) :=
    arriving_new rfl hfed nonce₀ readerId
  have hheld : Held close aead (new nonce₀ readerId below) segments .eof := by
    have hopen := held_of_open rfl harriving
    rwa [show (new nonce₀ readerId below).inner.ending = .eof from hfed.2.1] at hopen
  have hrel : RelatedPlain (Held close aead) (new nonce₀ readerId below)
      ⟨[], segments, .eof⟩ := ⟨rfl, hheld⟩
  exact read_follows.readsOut hlens hrel hfed.failuresLeft_eq_zero (holds_dataOf segments)

def afterSegments (close : UInt32 → Bool) (aead : MieruAead) : ℕ → MieruTcpStream → MieruTcpStream
  | 0, stream => stream
  | count + 1, stream => afterSegments close aead count
      (readNextSegment close aead (stream.inner.arrivals.length + 1) stream).2

theorem arriving_afterSegments {wire : Wire} {s : MieruTcpStream}
    (h : Arriving close aead wire segments s)
    (hnone : s.inner.arrivals.countP Arrival.isFailed = 0) {count : ℕ}
    (hcnt : count ≤ segments.length) :
    Arriving close aead ((codec close aead).after wire (segments.take count)) (segments.drop count)
      (afterSegments close aead count s) := by
  induction count generalizing wire segments s with
  | zero => exact h
  | succ count ih =>
    have hstep := readNextSegment_step (Nat.lt_succ_self _) h
    rw [afterSegments]
    generalize readNextSegment close aead (s.inner.arrivals.length + 1) s = run at hstep
    cases hstep with
    | wouldBlock _ _ hfewer => omega
    | @segment seg rest readBuffer readNonce arr hsegs harriving hfewer =>
      subst hsegs
      have hnone' : arr.countP Arrival.isFailed = 0 := by omega
      exact ih harriving hnone' (Nat.le_of_succ_le_succ hcnt)
    | ended hsegs =>
      rw [hsegs] at hcnt
      cases hcnt

theorem after_first {wire : Wire} (hne : segments ≠ []) :
    ((codec close aead).after wire segments).first = false := by
  induction segments generalizing wire with
  | nil => exact absurd rfl hne
  | cons seg segments ih =>
    rw [Codec.after]
    cases segments with
    | nil => rfl
    | cons next segments => exact ih (cons_ne_nil _ _)

theorem nonce_afterSegments {nonce : MieruNonce} {below : InnerStream}
    (hfed : Fed ((codec close aead).encodeAll ⟨nonce, true⟩ segments) below)
    (nonce₀ : MieruNonce) (readerId : UInt32) {count : ℕ} (hpos : 0 < count)
    (hcnt : count ≤ segments.length) :
    (afterSegments close aead count (new nonce₀ readerId below)).own.readNonce =
      some ((codec close aead).after ⟨nonce, true⟩ (segments.take count)).nonce := by
  have harriving : Arriving close aead ⟨nonce, true⟩ segments (new nonce₀ readerId below) :=
    arriving_new rfl hfed nonce₀ readerId
  have hread := (arriving_afterSegments harriving hfed.1.countP_isFailed hcnt).nonce
  have hne : segments.take count ≠ [] := by
    intro hnil
    have hlength := congrArg List.length hnil
    rw [length_take_of_le hcnt, length_nil] at hlength
    omega
  rw [Wire.Read, after_first hne] at hread
  exact hread

theorem after_nonce (wire : Wire) (segments : List (Segment close)) :
    ((codec close aead).after wire segments).nonce =
      ((segments.map Segment.content).map Prod.snd).foldl nonceAfter wire.nonce := by
  induction segments generalizing wire with
  | nil => rfl
  | cons seg segments ih => exact ih _

/-- The calls that write: `Write`, and `write_segment` for the other types. -/
inductive MieruCall where
  | write (buffer : Bytes)
  | segment (protocolType : UInt8) (payload : Bytes) (fits : Fits protocolType payload)

def writeSegments (aead : MieruAead) (minutes : ℕ → UInt32) : List (UInt8 × Bytes) → Io MieruTcpStream Unit
  | [] => Program.pure ()
  | (protocolType, payload) :: rest =>
    Program.bind (writeSegment aead minutes protocolType payload) fun _ => writeSegments aead minutes rest

namespace MieruCall

def run (aead : MieruAead) (minutes : ℕ → UInt32) : MieruCall → Io MieruTcpStream Unit
  | .write buffer => Program.bind (MieruTcpStream.write aead minutes buffer) fun _ => Program.pure ()
  | .segment protocolType payload _ => writeSegment aead minutes protocolType payload

def runAll (aead : MieruAead) (minutes : ℕ → UInt32) : List MieruCall → Io MieruTcpStream Unit
  | [] => Program.pure ()
  | call :: calls => Program.bind (run aead minutes call) fun _ => runAll aead minutes calls

def contents : MieruCall → List (UInt8 × Bytes)
  | .write buffer => (chunks maxTcpFragmentLen buffer).map fun chunk => (dataClientToServer, chunk)
  | .segment protocolType payload _ => [(protocolType, payload)]

def writtenBytes : List MieruCall → Bytes
  | [] => []
  | .write buffer :: calls => buffer ++ writtenBytes calls
  | .segment protocolType payload _ :: calls =>
    if protocolType = dataServerToClient ∨ protocolType = dataClientToServer then
      payload ++ writtenBytes calls
    else if protocolType = closeSessionRequest ∨ protocolType = closeSessionResponse then []
    else writtenBytes calls

end MieruCall

open MieruCall (contents writtenBytes run runAll)

theorem writeSegments_append (contents more : List (UInt8 × Bytes)) :
    writeSegments aead minutes (contents ++ more) =
      Program.bind (writeSegments aead minutes contents) fun _ => writeSegments aead minutes more := by
  induction contents with
  | nil => rfl
  | cons content contents ih =>
    rw [cons_append, writeSegments, writeSegments, ih]
    funext s
    simp only [Program.bind]
    rcases writeSegment aead minutes content.1 content.2 s with ⟨error | _, s⟩
    · rfl
    · rfl

theorem writeEach_eq_writeSegments (parts : List Bytes) :
    writeEach (writeSegment aead minutes dataClientToServer) parts =
      writeSegments aead minutes (parts.map fun part => (dataClientToServer, part)) := by
  induction parts with
  | nil => rfl
  | cons part parts ih => rw [writeEach, ih, map_cons, writeSegments]

theorem run_eq_writeSegments (call : MieruCall) :
    call.run aead minutes = writeSegments aead minutes call.contents := by
  cases call with
  | write buf =>
    rw [run, contents, ← writeEach_eq_writeSegments, write]
    split_ifs with hempty
    · rw [hempty]
      rfl
    · funext s
      simp only [Program.bind]
      rcases writeEach (writeSegment aead minutes dataClientToServer) (chunks maxTcpFragmentLen buf)
        s with ⟨error | _, s⟩
      · rfl
      · rfl
  | segment protocolType data fits =>
    funext s
    simp only [run, contents, writeSegments, Program.bind]
    rcases writeSegment aead minutes protocolType data s with ⟨error | _, s⟩
    · rfl
    · rfl

variable (calls : List MieruCall)

theorem runAll_eq_writeSegments :
    runAll aead minutes calls =
      writeSegments aead minutes (calls.flatMap contents) := by
  induction calls with
  | nil => rfl
  | cons call calls ih =>
    rw [runAll, run_eq_writeSegments, ih, flatMap_cons, writeSegments_append]

theorem fits_contents : ∀ content ∈ calls.flatMap contents, Fits content.1 content.2 := by
  intro content hmem
  obtain ⟨call, -, hcont⟩ := mem_flatMap.mp hmem
  cases call with
  | write buf =>
    obtain ⟨chunk, hchunk, rfl⟩ := mem_map.mp hcont
    have hsize : 0 < maxTcpFragmentLen := by decide
    exact fits_data ((chunks_spec hsize buf).2 chunk hchunk).2
  | segment protocolType data fits =>
    rw [mem_singleton.mp hcont]
    exact fits

theorem dataOf_data (parts : List Bytes) (rest : List (UInt8 × Bytes)) :
    dataOf ((parts.map fun part => (dataClientToServer, part)) ++ rest) = parts.flatten ++ dataOf rest := by
  induction parts with
  | nil => rfl
  | cons part parts ih =>
    rw [map_cons, cons_append, dataOf, if_pos (.inr rfl), ih, flatten_cons,
      append_assoc]

theorem writtenBytes_eq : writtenBytes calls = dataOf (calls.flatMap contents) := by
  induction calls with
  | nil => rfl
  | cons call calls ih =>
    rw [flatMap_cons]
    cases call with
    | write buf =>
      have hsize : 0 < maxTcpFragmentLen := by decide
      rw [writtenBytes, contents, dataOf_data, (chunks_spec hsize buf).1, ih]
    | segment protocolType data fits =>
      rw [writtenBytes, contents, singleton_append, dataOf, ih]

theorem writeSegments_sent (hclock : ∀ reading, close (minutes reading) = true)
    {contents : List (UInt8 × Bytes)} (hfits : ∀ content ∈ contents, Fits content.1 content.2)
    {s s' : MieruTcpStream} (h : writeSegments aead minutes contents s = (.ok (), s')) :
    ∃ segments : List (Segment close), segments.map Segment.content = contents ∧
      Sent (codec close aead) writeState segments s s' := by
  induction contents generalizing s with
  | nil =>
    obtain rfl := (Prod.mk.inj h).2
    exact ⟨[], rfl, .nil s⟩
  | cons content contents ih =>
    obtain ⟨hfirst, hlater⟩ := forall_mem_cons.mp hfits
    obtain ⟨_, middle, hseg, hrest⟩ := Program.bind_eq_ok h
    obtain ⟨segments, hcontents, hsent⟩ := ih hlater hrest
    refine ⟨writtenSegment hclock s.own content.1 content.2 hfirst :: segments, ?_, ?_⟩
    · rw [map_cons, hcontents]
      rfl
    · exact (writeSegment_ok hclock hfirst hseg).append hsent

/-- What a peer sends is read up to the first close, and the nonces of reader and writer stay in
step. -/
theorem mieru_stream_round_trip (close : UInt32 → Bool) (aead : MieruAead) (minutes : ℕ → UInt32)
    (hclock : ∀ reading, close (minutes reading) = true) (nonce readerNonce : MieruNonce)
    (sessionId readerId : UInt32) :
    (∀ (segments : List (Segment close)) (below : InnerStream),
      Fed ((codec close aead).encodeAll ⟨nonce, true⟩ segments) below →
      (∀ lens : List ℕ, (∀ len ∈ lens, 0 < len) →
        ReadsOut (dataOf (segments.map Segment.content))
          (callReads (read close aead) lens (new readerNonce readerId below))) ∧
      ∀ count, 0 < count → count ≤ segments.length →
        (afterSegments close aead count (new readerNonce readerId below)).own.readNonce =
          some ((codec close aead).after ⟨nonce, true⟩ (segments.take count)).nonce) ∧
    ∀ (calls : List MieruCall) (inner : InnerStream) (writer : MieruTcpStream),
      MieruCall.runAll aead minutes calls (new nonce sessionId inner) = (.ok (), writer) →
      ∃ sent, writer.inner.taken = inner.taken ++ sent ∧ ∀ below, Fed sent below →
        (∀ lens : List ℕ, (∀ len ∈ lens, 0 < len) →
          ReadsOut (MieruCall.writtenBytes calls)
            (callReads (read close aead) lens (new readerNonce readerId below))) ∧
        ∀ count, 0 < count → count ≤ (calls.flatMap MieruCall.contents).length →
          ∃ writer', writeSegments aead minutes ((calls.flatMap MieruCall.contents).take count)
              (new nonce sessionId inner) = (.ok (), writer') ∧
            (afterSegments close aead count (new readerNonce readerId below)).own.readNonce =
              some writer'.own.writeNonce := by
  constructor
  · intro segments below hfed
    refine ⟨fun lens hlens => reads_segments hfed readerNonce readerId hlens, ?_⟩
    intro count hpos hcnt
    exact nonce_afterSegments hfed readerNonce readerId hpos hcnt
  intro calls inner writer hrun
  rw [runAll_eq_writeSegments] at hrun
  obtain ⟨segments, hcontents, hsent⟩ := writeSegments_sent hclock (fits_contents calls) hrun
  refine ⟨(codec close aead).encodeAll ⟨nonce, true⟩ segments, hsent.1, ?_⟩
  intro below hfed
  constructor
  · intro lens hlens
    rw [writtenBytes_eq, ← hcontents]
    exact reads_segments hfed readerNonce readerId hlens
  intro count hpos hcnt
  rw [← hcontents, List.length_map] at hcnt
  obtain ⟨_, writer', hpart, -⟩ : ∃ u writer', writeSegments aead minutes
      ((calls.flatMap MieruCall.contents).take count) (new nonce sessionId inner) = (.ok u, writer') ∧
      writeSegments aead minutes ((calls.flatMap MieruCall.contents).drop count) writer' =
        (.ok (), writer) := by
    rw [← List.take_append_drop count (calls.flatMap MieruCall.contents), writeSegments_append] at hrun
    exact Program.bind_eq_ok hrun
  have hfits : ∀ content ∈ (calls.flatMap MieruCall.contents).take count, Fits content.1 content.2 :=
    fun content hmem => fits_contents calls content (List.mem_of_mem_take hmem)
  obtain ⟨first, hfirst, hfirstSent⟩ := writeSegments_sent hclock hfits hpart
  have hwriter : writer'.own.writeNonce = ((codec close aead).after ⟨nonce, true⟩ first).nonce :=
    congrArg Wire.nonce hfirstSent.2
  refine ⟨writer', hpart, ?_⟩
  rw [nonce_afterSegments hfed readerNonce readerId hpos hcnt, hwriter, after_nonce, after_nonce,
    hfirst, ← hcontents,
    List.map_take]

def carryingNonce : MieruNonce := ⟨List.replicate 21 0 ++ [255, 255, 255], by decide⟩

def closedBetween : List MieruCall :=
  [.segment openSessionRequest [1, 2] (by decide), .write [65, 66],
    .segment ackClientToServer [] (by decide),
    .segment closeSessionRequest [] (by decide), .write [67]]

def closedBetweenWritten : Except IoError Unit × MieruTcpStream :=
  MieruCall.runAll countingAead (fun _ => 0) closedBetween (new carryingNonce 7 ⟨[], .eof, [], [], []⟩)

theorem closed_between_round_trip :
    ReadsOut [65, 66] (callReads (read (fun _ => true) countingAead) [1, 5, 2]
      (new zeroNonce 0 ⟨arriving closedBetweenWritten.2.inner.taken, .eof, [], [], []⟩)) := by
  have hok : closedBetweenWritten.1 = .ok () := by decide +kernel
  obtain ⟨writer, hwriter⟩ : ∃ writer, closedBetweenWritten = (.ok (), writer) :=
    ⟨closedBetweenWritten.2, by rw [← hok]⟩
  have hrun := hwriter
  unfold closedBetweenWritten at hrun
  obtain ⟨sent, htaken, hrds⟩ := (mieru_stream_round_trip (fun _ => true) countingAead (fun _ => 0)
    (fun _ => rfl) carryingNonce zeroNonce 7 0).2 closedBetween _ writer hrun
  rw [hwriter, htaken]
  have hfed : Fed sent ⟨arriving sent, .eof, [], [], []⟩ := ⟨List.map_map, rfl, rfl⟩
  exact (hrds _ hfed).1 [1, 5, 2] (by decide)

/-- The number that the bytes write down, most significant first. -/
def valueOf : Bytes → ℕ
  | [] => 0
  | byte :: rest => byte.toNat * 256 ^ rest.length + valueOf rest

theorem byte_succ (byte : UInt8) :
    (byte + 1).toNat + (if byte = 255 then 256 else 0) = byte.toNat + 1 := by
  have hlt := byte.toNat_lt
  simp only [← UInt8.toNat_inj, UInt8.toNat_add, UInt8.reduceToNat]
  split <;> omega

theorem valueOf_incrementBytes (bytes : Bytes) : valueOf (incrementBytes bytes).1 +
    (if (incrementBytes bytes).2 then 256 ^ bytes.length else 0) = valueOf bytes + 1 := by
  induction bytes with
  | nil => rfl
  | cons byte rest ih =>
    have hlen := incrementBytes_length rest
    have hbyte := byte_succ byte
    rw [incrementBytes]
    split
    all_goals
      next h =>
        simp only [h, valueOf, length_cons] at *
        grind

theorem valueOf_iterate (nonce : MieruNonce) (n : ℕ) :
    valueOf (incrementNonce^[n] nonce).1 ≡ valueOf nonce.1 + n [MOD 256 ^ 24] := by
  induction n with
  | zero => rfl
  | succ n ih =>
    have hval := valueOf_incrementBytes (incrementNonce^[n] nonce).1
    rw [(incrementNonce^[n] nonce).2] at hval
    rw [Function.iterate_succ_apply']
    refine Nat.ModEq.trans ?_ (ih.add_right 1)
    rw [← hval]
    split <;> simp [Nat.ModEq, incrementNonce]

/-- The nonces that a call of `write_segment` seals with. -/
def sealNonces (nonce : MieruNonce) (payload : Bytes) : List MieruNonce :=
  if 65535 < payload.length then []
  else if payload = [] then [nonce]
  else [nonce, incrementNonce nonce]

def noncesUsed (aead : MieruAead) (minutes : ℕ → UInt32) :
    List (UInt8 × Bytes) → MieruTcpStream → List MieruNonce
  | [], _ => []
  | (protocolType, payload) :: rest, stream => sealNonces stream.own.writeNonce payload ++
      noncesUsed aead minutes rest (writeSegment aead minutes protocolType payload stream).2

theorem writeSegment_nonces (content : UInt8 × Bytes) (s : MieruTcpStream) :
    ∃ used, sealNonces s.own.writeNonce content.2 =
        (range used).map (incrementNonce^[·] s.own.writeNonce) ∧
      (writeSegment aead minutes content.1 content.2 s).2.own.writeNonce =
        incrementNonce^[used] s.own.writeNonce := by
  unfold sealNonces writeSegment encodeMetadata
  by_cases hlong : 65535 < content.2.length
  · simp only [if_pos hlong]
    exact ⟨0, rfl, rfl⟩
  · simp only [if_neg hlong]
    by_cases hempty : content.2 = []
    · exact ⟨1, if_pos hempty, if_pos hempty⟩
    · exact ⟨2, if_neg hempty, if_neg hempty⟩

theorem noncesUsed_eq (contents : List (UInt8 × Bytes)) (s : MieruTcpStream) :
    ∃ count, noncesUsed aead minutes contents s =
      (range count).map (incrementNonce^[·] s.own.writeNonce) := by
  induction contents generalizing s with
  | nil => exact ⟨0, rfl⟩
  | cons content contents ih =>
    obtain ⟨count, hrest⟩ := ih (writeSegment aead minutes content.1 content.2 s).2
    obtain ⟨used, hseals, hnonce⟩ := @writeSegment_nonces aead minutes content s
    refine ⟨used + count, ?_⟩
    rw [noncesUsed, hrest, hseals, hnonce, range_add, map_append, map_map]
    simp only [Function.comp_def, Nat.add_comm used, Function.iterate_add_apply]

/-- The calls, whether or not they succeed, use no nonce twice; a call uses the cipher at the nonces
that are listed for it. -/
theorem mieru_nonces_fresh (aead : MieruAead) (minutes : ℕ → UInt32)
    (contents : List (UInt8 × Bytes)) (stream : MieruTcpStream)
    (h : (noncesUsed aead minutes contents stream).length ≤ 256 ^ 24) :
    (noncesUsed aead minutes contents stream).Nodup ∧ ∀ (aead' : MieruAead) protocolType payload stream,
      (∀ nonce ∈ sealNonces stream.own.writeNonce payload, aead.encrypt nonce = aead'.encrypt nonce) →
      writeSegment aead minutes protocolType payload stream =
        writeSegment aead' minutes protocolType payload stream := by
  constructor
  · obtain ⟨count, hused⟩ := noncesUsed_eq contents stream
    rw [hused, length_map, length_range] at h
    rw [hused]
    refine nodup_range.map_on fun i hi j hj heq => ?_
    have hmod : i ≡ j [MOD 256 ^ 24] := Nat.ModEq.add_left_cancel' _
      ((valueOf_iterate _ i).symm.trans (heq ▸ valueOf_iterate _ j))
    exact hmod.eq_of_lt_of_lt ((mem_range.mp hi).trans_le h) ((mem_range.mp hj).trans_le h)
  · intro aead' protocolType payload stream hagree
    unfold sealNonces at hagree
    unfold writeSegment encodeMetadata segmentBody
    split_ifs at hagree ⊢ <;> simp_all

theorem mieru_nonces_fresh_carrying :
    let used := noncesUsed countingAead (fun _ => 0) [(openSessionRequest, [1, 2]),
      (dataClientToServer, []), (dataClientToServer, [65])] (new carryingNonce 7 ⟨[], .eof, [], [], []⟩)
    used.length = 5 ∧ used.Nodup :=
  ⟨by decide, (mieru_nonces_fresh _ _ _ _ (by decide)).1⟩

end KeliNative.Framing.MieruTcpStream
