import KeliNative.Lib.Stream
import KeliNative.Tun.Script
import KeliNative.Tun.ServerReads

/-!
# The server's byte stream

A data packet, fresh or repeated, carries the bytes of the stream at its own number.
-/

namespace KeliNative.Tun
open TunTcpSessionTable List

structure FlowState.Streams (isn : UInt32) (calls : List RelayEvent) (state : FlowState) : Prop where
  initial : ∀ r, state = .active r → r.serverInitialSequenceNumber = isn
  next : ∀ r, state = .active r →
    r.serverNextSequenceNumber = isn + 1 + UInt32.ofNat (serverStream calls).length
  unacked : ∀ r, state = .active r → ∀ unacked, r.serverUnackedPayload = some unacked →
    unacked.payload ≠ [] ∧ ∃ before, serverStream calls = before ++ unacked.payload ∧
      unacked.sequenceNumber = isn + 1 + UInt32.ofNat before.length
  closed : ∀ c, state = .serverClosed c → c.response.sequenceNumber =
    isn + 1 + UInt32.ofNat (serverStream calls).length ∧ CloseReported calls

section

variable {key : TunTcpSessionKey} {a : Arrival} {isn : UInt32} {control control' : Control}
  {state state' : FlowState} {before calls : List RelayEvent} {packets : List Bytes}

theorem FlowStep.streams (step : FlowStep key a control state calls packets control' state')
    (hfit : PayloadsFit calls) (h : state.Streams isn before) :
    state'.Streams isn (before ++ calls) := by
  rcases step.chunks with hchs | ⟨r, data, rfl, hsends⟩ | ⟨_, hlarge⟩
  · have hstr : serverStream (before ++ calls) = serverStream before := by
      rw [serverStream_append, serverStream_of_chunks hchs, append_nil]
    have hkeeps : ∀ r', state' = .active r' → ∃ r, state = .active r ∧ NumbersKept a r r' := by
      rintro r' rfl
      obtain ⟨r, hr, ⟨data, hsends⟩ | hkept⟩ := step.sends_or_keeps
      · rw [hsends.chunks] at hchs
        cases hchs
      · exact ⟨r, hr, hkept⟩
    refine ⟨?_, ?_, ?_, ?_⟩
    · intro r' hr'
      obtain ⟨r, hr, hkept⟩ := hkeeps r' hr'
      exact hkept.initial.trans (h.initial r hr)
    · rw [hstr]
      intro r' hr'
      obtain ⟨r, hr, hkept⟩ := hkeeps r' hr'
      exact hkept.next.trans (h.next r hr)
    · rw [hstr]
      intro r' hr' unacked hunack
      obtain ⟨r, hr, hkept⟩ := hkeeps r' hr'
      rcases hkept.unacked with hsame | ⟨hnone, _⟩
      · exact h.unacked r hr unacked (hsame.symm.trans hunack)
      · rw [hnone] at hunack
        cases hunack
    · rw [hstr]
      rintro c' rfl
      rcases step.serverClosed with ⟨r, hr, hseq, _, hreported⟩ | ⟨c, hc, hresp⟩
      · refine ⟨hseq.trans (h.next r hr), ?_⟩
        obtain ⟨ev, hmem, hread⟩ := hreported
        exact ⟨ev, mem_append_right _ hmem, hread⟩
      · obtain ⟨hseq, hreported⟩ := h.closed c hc
        exact ⟨hresp ▸ hseq, hreported.append _⟩
  · have hstr : serverStream (before ++ calls) = serverStream before ++ data := by
      rw [serverStream_append, serverStream, serverStream, hsends.chunks, flatten_singleton]
    obtain rfl := hsends.state
    refine ⟨?_, ?_, ?_, ?_⟩
    · rintro r' ⟨⟩
      exact h.initial r rfl
    · rintro r' ⟨⟩
      rw [hstr, length_append, UInt32.ofNat_add, ← UInt32.add_assoc, ← h.next r rfl]
      rfl
    · rw [hstr]
      rintro r' ⟨⟩ unacked ⟨⟩
      exact ⟨hsends.payload_ne, serverStream before, rfl, h.next r rfl⟩
    · rintro c ⟨⟩
  · exact absurd hfit hlarge

theorem FlowRun.streams (run : FlowRun key a control state calls packets control' state')
    (hfit : PayloadsFit calls) (h : state.Streams isn before) :
    state'.Streams isn (before ++ calls) := by
  induction run with
  | refl =>
    rw [append_nil]
    exact h
  | step run step ih =>
    rw [← append_assoc]
    exact step.streams hfit.of_append.2 (ih hfit.of_append.1 h)

end

/-- What the client sees of a packet built on the way from `state` to `state'`. -/
inductive Seen (state state' : FlowState) (segment : TunTcpSegment) : Prop where
  | plain (hpay : segment.payload = []) (hfin : segment.flags.fin = false)
  | again {r : TunTcpSessionRecord} {unacked : TunTcpServerUnackedPayload}
      (hst : state = .active r) (hunack : r.serverUnackedPayload = some unacked)
      (hseq : segment.sequenceNumber = unacked.sequenceNumber)
      (hpay : segment.payload = unacked.payload) (hfin : segment.flags.fin = false)
  | data {r : TunTcpSessionRecord} {now : Instant} (hst : state = .active r)
      (hst' : state' = .active (r.sent segment.payload now))
      (hseq : segment.sequenceNumber = r.serverNextSequenceNumber)
      (hfin : segment.flags.fin = false)
  | fin {c : TunTcpServerClosedSession} (hst' : state' = .serverClosed c)
      (hpay : segment.payload = [])
      (hseq : segment.sequenceNumber = c.response.sequenceNumber)
      (hackn : segment.acknowledgmentNumber = c.response.acknowledgmentNumber)

variable {segment : TunTcpSegment}

theorem Answer.seen {a : Arrival} {state state' : FlowState} {pkt : Bytes}
    (h : Answer a state state' pkt) (hparse : parseTunTcpSegment pkt = .ok segment) :
    Seen state state' segment := by
  cases h with
  | reset hbuild =>
    obtain rfl := parse_of_build hbuild hparse
    exact .plain rfl (by decide : (TunTcpFlags.fromBits 0x0014).fin = false)
  | synAck _ _ _ _ hbuild =>
    obtain rfl := parse_of_build (synAck_build hbuild).2 hparse
    exact .plain rfl (by decide : (TunTcpFlags.fromBits 0x0012).fin = false)
  | ack _ hbuild =>
    obtain rfl := parse_of_build hbuild hparse
    exact .plain rfl (by decide : (TunTcpFlags.fromBits 0x0010).fin = false)
  | again hst hunack _ hbuild =>
    obtain rfl := parse_of_build hbuild hparse
    exact .again hst hunack rfl rfl (by decide : (TunTcpFlags.fromBits 0x0018).fin = false)
  | data hst hst' _ hbuild =>
    obtain rfl := parse_of_build hbuild hparse
    exact .data hst hst' rfl (by decide : (TunTcpFlags.fromBits 0x0018).fin = false)
  | fin hst' hbuild =>
    obtain rfl := parse_of_build hbuild hparse
    exact .fin hst' rfl rfl rfl

def CarriesStream (isn : UInt32) (stream : Bytes) (segment : TunTcpSegment) : Prop :=
  ∃ offset, segment.sequenceNumber = isn + 1 + UInt32.ofNat offset ∧
    offset + segment.payload.length ≤ stream.length ∧
    segment.payload = streamSlice stream offset segment.payload.length

def RepeatsFin (earlier later : TunTcpSegment) : Prop :=
  earlier.flags.fin = true → later.payload = [] ∧ (later.flags.fin = true →
    later.sequenceNumber = earlier.sequenceNumber ∧
    later.acknowledgmentNumber = earlier.acknowledgmentNumber)

structure Sent (isn : UInt32) (calls : List RelayEvent) (segments : List TunTcpSegment)
    (state : FlowState) : Prop where
  data : ∀ segment ∈ segments, segment.payload ≠ [] →
    CarriesStream isn (serverStream calls) segment
  fin : ∀ segment ∈ segments, segment.flags.fin = true → segment.sequenceNumber =
    isn + 1 + UInt32.ofNat (serverStream calls).length ∧ CloseReported calls
  order : segments.Pairwise RepeatsFin
  open_ : ∀ r, state = .active r → ∀ segment ∈ segments, segment.flags.fin = false
  closed : ∀ c, state = .serverClosed c → ∀ segment ∈ segments, segment.flags.fin = true →
    segment.sequenceNumber = c.response.sequenceNumber ∧
    segment.acknowledgmentNumber = c.response.acknowledgmentNumber

theorem Sent.sublist {isn : UInt32} {calls : List RelayEvent} {segments segments' : List TunTcpSegment}
    {state : FlowState} (h : Sent isn calls segments state) (hsub : segments'.Sublist segments) :
    Sent isn calls segments' state where
  data segment hmem := h.data segment (hsub.subset hmem)
  fin segment hmem := h.fin segment (hsub.subset hmem)
  order := h.order.sublist hsub
  open_ r hr segment hmem := h.open_ r hr segment (hsub.subset hmem)
  closed c hc segment hmem := h.closed c hc segment (hsub.subset hmem)

theorem CarriesStream.append {isn : UInt32} {s : Bytes} (h : CarriesStream isn s segment)
    (more : Bytes) : CarriesStream isn (s ++ more) segment := by
  obtain ⟨off, hseq, hfits, hpay⟩ := h
  refine ⟨off, hseq, ?_, ?_⟩
  · rw [length_append]
    omega
  · rw [slice_append_left hfits]
    exact hpay

theorem carriesStream_last {isn : UInt32} {s before : Bytes}
    (hstr : s = before ++ segment.payload)
    (hseq : segment.sequenceNumber = isn + 1 + UInt32.ofNat before.length) :
    CarriesStream isn s segment := by
  refine ⟨before.length, hseq, ?_, ?_⟩
  · rw [hstr, length_append]
  · rw [hstr, slice_append_right]

section

variable {key : TunTcpSessionKey} {a : Arrival} {isn : UInt32} {control control' : Control}
  {state state' : FlowState} {before calls : List RelayEvent} {packets : List Bytes}
  {segments : List TunTcpSegment}

theorem Seen.carriesStream {segment : TunTcpSegment} (h : Seen state state' segment)
    (hbef : state.Streams isn before) (hafter : state'.Streams isn (before ++ calls))
    (hpay : segment.payload ≠ []) : CarriesStream isn (serverStream (before ++ calls)) segment := by
  cases h with
  | plain hempty => exact absurd hempty hpay
  | again hst hunack hseq hsame =>
    obtain ⟨_, before', hstr, hnum⟩ := hbef.unacked _ hst _ hunack
    rw [serverStream_append]
    exact (carriesStream_last (hsame ▸ hstr) (hseq.trans hnum)).append _
  | data _ hst' hseq =>
    obtain ⟨_, before', hstr, hnum⟩ := hafter.unacked _ hst' _ rfl
    exact carriesStream_last hstr (hseq.trans hnum)
  | fin _ hempty => exact absurd hempty hpay

theorem pairwise_of_length {segments : List TunTcpSegment} (h : segments.length ≤ 1) :
    segments.Pairwise RepeatsFin := by
  cases segments with
  | nil => exact .nil
  | cons first rest =>
    obtain rfl : rest = [] := by simpa using h
    exact pairwise_singleton _ _

theorem FlowStep.sentSegments (step : FlowStep key a control state calls packets control' state')
    (hwf : control = .start → state.WellFormed key) (hbef : state.Streams isn before)
    (hafter : state'.Streams isn (before ++ calls)) (h : Sent isn before segments state) :
    Sent isn (before ++ calls) (segments ++ parsedSegments packets) state' := by
  have hseen : ∀ segment ∈ parsedSegments packets, Seen state state' segment := by
    intro segment hmem
    obtain ⟨pkt, hpkt, hparse⟩ := mem_parsedSegments.mp hmem
    exact (step.answers hwf pkt hpkt).seen hparse
  -- A `FIN` sent earlier means that the session is gone, so the stream is at its end.
  have hquiet : ∀ segment ∈ segments, segment.flags.fin = true → calls = [] := by
    intro segment hmem hfin
    refine step.calls_of_left ?_
    cases hsess : state.session with
    | none => rfl
    | some r =>
      have hopen := h.open_ r (FlowState.session_eq_some.mp hsess) segment hmem
      rw [hfin] at hopen
      cases hopen
  refine ⟨?_, ?_, ?_, ?_, ?_⟩
  · intro segment hmem hpay
    rcases mem_append.mp hmem with hmem | hmem
    · rw [serverStream_append]
      exact (h.data segment hmem hpay).append _
    · exact (hseen segment hmem).carriesStream hbef hafter hpay
  · intro segment hmem hfin
    rcases mem_append.mp hmem with hmem | hmem
    · rw [hquiet segment hmem hfin, append_nil]
      exact h.fin segment hmem hfin
    · cases hseen segment hmem with
      | fin hst' _ hseq =>
        obtain ⟨hnum, hreported⟩ := hafter.closed _ hst'
        exact ⟨hseq.trans hnum, hreported⟩
      | plain _ hno | again _ _ _ _ hno | data _ _ _ hno =>
        rw [hfin] at hno
        cases hno
  · refine pairwise_append.mpr ⟨h.order, ?_, ?_⟩
    · have hlen := (parsedSegments_length packets).trans step.packets_length
      exact pairwise_of_length hlen
    · intro earlier hearlier later hlater hfin
      have hleft : ∀ r, state ≠ .active r := by
        intro r hr
        have hopen := h.open_ r hr earlier hearlier
        rw [hfin] at hopen
        cases hopen
      cases hseen later hlater with
      | plain hpay hno =>
        refine ⟨hpay, fun hlast => ?_⟩
        rw [hlast] at hno
        cases hno
      | again hst | data hst => exact absurd hst (hleft _)
      | fin hst' hpay hseq hackn =>
        refine ⟨hpay, fun _ => ?_⟩
        subst hst'
        rcases step.serverClosed with ⟨r, hr, _⟩ | ⟨c, hc, hresp⟩
        · exact absurd hr (hleft r)
        · obtain ⟨hseq₀, hackn₀⟩ := h.closed c hc earlier hearlier hfin
          rw [hseq, hackn, hresp]
          exact ⟨hseq₀.symm, hackn₀.symm⟩
  · rintro r' rfl segment hmem
    obtain ⟨r, hr, _⟩ := step.clientInitial
    rcases mem_append.mp hmem with hmem | hmem
    · exact h.open_ r hr segment hmem
    · cases hseen segment hmem with
      | plain _ hno | again _ _ _ _ hno | data _ _ _ hno => exact hno
      | fin hst' => cases hst'
  · rintro c' rfl segment hmem hfin
    rcases mem_append.mp hmem with hmem | hmem
    · rcases step.serverClosed with ⟨r, hr, _⟩ | ⟨c, hc, hresp⟩
      · have hopen := h.open_ r hr segment hmem
        rw [hfin] at hopen
        cases hopen
      · rw [hresp]
        exact h.closed c hc segment hmem hfin
    · cases hseen segment hmem with
      | fin hst' _ hseq hackn =>
        cases hst'
        exact ⟨hseq, hackn⟩
      | plain _ hno | again _ _ _ _ hno | data _ _ _ hno =>
        rw [hfin] at hno
        cases hno

section

variable (run : FlowRun key a control state calls packets control' state')
  (hwf : state.WellFormed key)

include run hwf

theorem FlowRun.sentSegments (hfit : PayloadsFit calls) (hbef : state.Streams isn before)
    (h : Sent isn before segments state) :
    Sent isn (before ++ calls) (segments ++ parsedSegments packets) state' := by
  induction run with
  | refl =>
    rw [append_nil]
    exact h.sublist (by simp [parsedSegments])
  | step run step ih =>
    obtain ⟨hfit₁, hfit₂⟩ := hfit.of_append
    have hmid := run.streams hfit₁ hbef
    rw [parsedSegments_append, ← append_assoc, ← append_assoc]
    exact step.sentSegments (run.wellFormed_start hwf) hmid (step.streams hfit₂ hmid)
      (ih hwf hfit₁ hbef h)

theorem FlowRun.parses :
    ∀ pkt ∈ packets, ∃ segment, parseTunTcpSegment pkt = .ok segment := by
  intro pkt hmem
  obtain ⟨_, _, _, _, _, _, hbuild⟩ := run.built hwf pkt hmem
  exact ⟨_, parse_buildTunTcpResponsePacket _ _ _ _ _ _ _ hbuild⟩

end

end

def numbered (sequenceNumber : UInt32) : List Bytes → List (UInt32 × Bytes)
  | [] => []
  | chunk :: chunks =>
    (sequenceNumber, chunk) :: numbered (sequenceNumber + UInt32.ofNat chunk.length) chunks

theorem numbered_append (seq : UInt32) (chunks : List Bytes) (chunk : Bytes) :
    numbered seq (chunks ++ [chunk]) = numbered seq chunks ++
      [(seq + UInt32.ofNat chunks.flatten.length, chunk)] := by
  induction chunks generalizing seq with
  | nil => simp [numbered]
  | cons first rest ih =>
    rw [cons_append, numbered, ih, numbered, flatten_cons, length_append,
      UInt32.ofNat_add, UInt32.add_assoc, cons_append]

structure ServerSent (key : TunTcpSessionKey) (isn : UInt32) (state : FlowState)
    (entries : List Entry) : Prop where
  streams : state.Streams isn (callsOf key entries)
  sent : Sent isn (callsOf key entries) (segmentsOf key entries) state
  fresh : (freshSegments key entries).map (fun segment => (segment.sequenceNumber, segment.payload)) =
    numbered (isn + 1) (serverChunks (callsOf key entries))
  parses : ∀ packet ∈ packetsOf key entries, ∃ segment, parseTunTcpSegment packet = .ok segment

section

variable {key : TunTcpSessionKey} {a : Arrival} {isn : UInt32} {entry : Entry}
  {entries : List Entry} {state state' : FlowState}

theorem serverSent_start (h : Starts key a entry state) :
    ServerSent key a.serverInitialSequenceNumber (.active (a.newSession key)) [entry] := by
  obtain ⟨pkt, hpkts, hbuild⟩ := h.packets
  have hparse := parse_buildTunTcpResponsePacket _ _ _ _ _ _ _ (synAck_build hbuild).2
  have hcalls : callsOf key [entry] = [] := by simp [callsOf, h.calls]
  have hpacketsOf : packetsOf key [entry] = [pkt] := by simp [packetsOf, hpkts]
  have hsegs : ∀ segment ∈ segmentsOf key [entry],
      segment.payload = [] ∧ segment.flags.fin = false := by
    intro segment hmem
    obtain ⟨pkt', hmem, hparse'⟩ := mem_parsedSegments.mp hmem
    rw [hpacketsOf] at hmem
    obtain rfl := mem_singleton.mp hmem
    obtain rfl := parse_of_build (synAck_build hbuild).2 hparse'
    exact ⟨rfl, (by decide : (TunTcpFlags.fromBits 0x0012).fin = false)⟩
  have hnofin : ∀ segment ∈ segmentsOf key [entry], segment.flags.fin ≠ true := by
    intro segment hmem hfin
    rw [(hsegs segment hmem).2] at hfin
    cases hfin
  refine ⟨⟨?_, ?_, ?_, ?_⟩, ⟨?_, ?_, ?_, ?_, ?_⟩, ?_, ?_⟩
  · rintro r ⟨⟩
    rfl
  · rintro r ⟨⟩
    rw [hcalls]
    simp [Arrival.newSession, serverStream, serverChunks]
  · rintro r ⟨⟩ unacked ⟨⟩
  · rintro c ⟨⟩
  · exact fun segment hmem hpay => absurd (hsegs segment hmem).1 hpay
  · exact fun segment hmem hfin => absurd hfin (hnofin segment hmem)
  · refine pairwise_of_length (le_trans (parsedSegments_length _) ?_)
    rw [hpacketsOf]
    exact le_rfl
  · exact fun r _ segment hmem => (hsegs segment hmem).2
  · exact fun c _ segment hmem hfin => absurd hfin (hnofin segment hmem)
  · simp [freshSegments, Entry.freshSegments, h.calls, hcalls, serverChunks, numbered]
  · intro pkt' hmem
    rw [hpacketsOf] at hmem
    obtain rfl := mem_singleton.mp hmem
    exact ⟨_, hparse⟩

theorem ServerSent.quiet (h : ServerSent key isn state entries)
    (hchs : serverChunks (entry.callsOf key) = []) (hpkts : entry.packetsOf key = [])
    (hst : state' = state ∨ state' = .absent) : ServerSent key isn state' (entries ++ [entry]) := by
  have hcalls : serverChunks (callsOf key (entries ++ [entry])) =
      serverChunks (callsOf key entries) := by
    rw [callsOf_append, serverChunks_append, hchs, append_nil]
  have hstr : serverStream (callsOf key (entries ++ [entry])) =
      serverStream (callsOf key entries) := by
    rw [serverStream, hcalls, serverStream]
  have hreported : CloseReported (callsOf key entries) →
      CloseReported (callsOf key (entries ++ [entry])) := by
    rw [callsOf_append]
    exact fun hclosed => hclosed.append _
  have hsegs : segmentsOf key (entries ++ [entry]) = segmentsOf key entries := by
    rw [segmentsOf_append, hpkts]
    exact append_nil _
  have hkept : ∀ r, state' = .active r → state = .active r := by
    rintro r rfl
    rcases hst with hsame | habsent
    · exact hsame.symm
    · cases habsent
  have hkept' : ∀ c, state' = .serverClosed c → state = .serverClosed c := by
    rintro c rfl
    rcases hst with hsame | habsent
    · exact hsame.symm
    · cases habsent
  refine ⟨⟨?_, ?_, ?_, ?_⟩, ⟨?_, ?_, ?_, ?_, ?_⟩, ?_, ?_⟩
  · exact fun r hr => h.streams.initial r (hkept r hr)
  · rw [hstr]
    exact fun r hr => h.streams.next r (hkept r hr)
  · rw [hstr]
    exact fun r hr => h.streams.unacked r (hkept r hr)
  · rw [hstr]
    exact fun c hc => (h.streams.closed c (hkept' c hc)).imp_right hreported
  · rw [hstr, hsegs]
    exact h.sent.data
  · rw [hstr, hsegs]
    exact fun segment hmem hfin => (h.sent.fin segment hmem hfin).imp_right hreported
  · rw [hsegs]
    exact h.sent.order
  · rw [hsegs]
    exact fun r hr => h.sent.open_ r (hkept r hr)
  · rw [hsegs]
    exact fun c hc => h.sent.closed c (hkept' c hc)
  · rw [freshSegments_append, Entry.freshSegments, if_pos hchs, append_nil, hcalls]
    exact h.fresh
  · rw [packetsOf_append, hpkts, append_nil]
    exact h.parses

theorem ServerSent.run {control : Control} {packets : List Bytes} (hwf : state.WellFormed key)
    (hfit : PayloadsFit (entry.callsOf key))
    (hrun : FlowRun key a .start state (entry.callsOf key) packets control state')
    (hemits : Emits key entry control packets) (h : ServerSent key isn state entries) :
    ServerSent key isn state' (entries ++ [entry]) := by
  have hsent := hrun.sentSegments hwf hfit h.streams h.sent
  refine ⟨?_, ?_, ?_, ?_⟩
  · rw [callsOf_append]
    exact hrun.streams hfit h.streams
  · rw [callsOf_append, segmentsOf_append]
    rcases hemits with hemits | ⟨hemits, _⟩
    · rw [hemits]
      exact hsent
    · rw [hemits]
      exact hsent.sublist (append_sublist_append_left _ |>.mpr (nil_sublist _))
  · rw [freshSegments_append, callsOf_append, serverChunks_append, map_append, h.fresh]
    cases hrun.fresh with
    | nothing hchs =>
      have hchs := hchs.resolve_right fun href => href.2 hfit
      rw [Entry.freshSegments, if_pos hchs, hchs, append_nil, map_nil, append_nil]
    | sent data hst _ _ _ hctl hchs hdata =>
      have hpkts : entry.packetsOf key = packets :=
        hemits.resolve_right fun hfail => hfail.2 hctl
      rw [Entry.freshSegments, if_neg (by simp [hchs]), hpkts, hdata, hchs, numbered_append,
        h.streams.next _ hst]
      rfl
  · rw [packetsOf_append]
    intro pkt hmem
    rcases mem_append.mp hmem with hmem | hmem
    · exact h.parses pkt hmem
    · rcases hemits with hemits | ⟨hemits, _⟩
      · rw [hemits] at hmem
        exact hrun.parses hwf pkt hmem
      · rw [hemits] at hmem
        cases hmem

theorem ServerSent.next (hwf : state.WellFormed key) (hfit : PayloadsFit (entry.callsOf key))
    (hcont : Continues key entry state state') (h : ServerSent key isn state entries) :
    ServerSent key isn state' (entries ++ [entry]) := by
  cases hcont with
  | idle hcalls hpkts => exact h.quiet (by rw [hcalls]; rfl) hpkts (.inl rfl)
  | pruned hcalls hpkts => exact h.quiet (by rw [hcalls]; rfl) hpkts (.inr rfl)
  | expired _ hcalls hpkts => exact h.quiet (by rw [hcalls]; rfl) hpkts (.inr rfl)
  | run _ _ hrun hemits => exact h.run hwf hfit hrun hemits

end

/-- Every data packet carries the server's bytes at its own number, in order, and a `FIN` stands at
the end. -/
theorem server_stream_consistency {ρ : Type} (relay : TunTcpSessionRelay ρ) (maxActiveSessions : ℕ)
    (relayState : ρ) (key : TunTcpSessionKey) (inputs : List Input)
    (hfit : ∀ entry ∈ (execute relay maxActiveSessions relayState inputs).trace,
      PayloadsFit (entry.callsOf key))
    (a : Arrival) (entries : List Entry) (hbegins : Begins a entries)
    (hinc : entries <+:
      incarnation key (execute relay maxActiveSessions relayState inputs).trace) :
    let stream := serverStream (callsOf key entries)
    let first := a.serverInitialSequenceNumber + 1
    (∀ packet ∈ packetsOf key entries, ∃ segment, parseTunTcpSegment packet = .ok segment) ∧
    (∀ segment ∈ segmentsOf key entries, segment.payload ≠ [] →
      CarriesStream a.serverInitialSequenceNumber stream segment ∧
      (stream.length < 2 ^ 32 → ∀ offset < 2 ^ 32,
        segment.sequenceNumber = first + UInt32.ofNat offset →
        segment.payload = streamSlice stream offset segment.payload.length)) ∧
    (freshSegments key entries).map (fun segment => (segment.sequenceNumber, segment.payload)) =
      numbered first (serverChunks (callsOf key entries)) ∧
    (∀ segment ∈ segmentsOf key entries, segment.flags.fin = true →
      segment.sequenceNumber = first + UInt32.ofNat stream.length ∧
      CloseReported (callsOf key entries)) ∧
    (segmentsOf key entries).Pairwise RepeatsFin := by
  obtain ⟨state, h⟩ := incarnation_induction relay maxActiveSessions relayState key
    (fun entry => PayloadsFit (entry.callsOf key))
    (fun a state entries => ServerSent key a.serverInitialSequenceNumber state entries)
    (fun _ _ _ _ hstarts => serverSent_start hstarts)
    (fun _ _ _ _ _ hfit _ hwf _ hcont h => h.next hwf hfit hcont)
    inputs hfit hbegins hinc
  refine ⟨h.parses, fun segment hmem hpay => ?_, h.fresh, h.sent.fin, h.sent.order⟩
  have hcar := h.sent.data segment hmem hpay
  refine ⟨hcar, fun hlength offset hoff hseq => ?_⟩
  obtain ⟨offset', hseq', hfits, hslice⟩ := hcar
  obtain rfl : offset' = offset := by
    refine SeqNum.ofNat_inj (by omega) hoff ?_
    exact (UInt32.add_right_inj _).mp (hseq'.symm.trans hseq)
  exact hslice

def receivingClient : List Input :=
  [clientSegment 100 0 0x0002 [], clientSegment 101 8 0x0010 [], clientSegment 101 8 0x0010 [],
    clientSegment 101 8 0x0010 [], clientSegment 101 10 0x0010 []].map fun segment =>
      .segment (.ofClient 7 segment)

def receivingEntries : List Entry := incarnation clientKey
  (execute (scriptedRelay (.ok ())) 4 [.payload [1, 2], .closed] receivingClient).trace

theorem server_stream_consistency_receiving :
    serverStream (callsOf clientKey receivingEntries) = [1, 2] ∧
    (segmentsOf clientKey receivingEntries).map
      (fun segment => (segment.sequenceNumber, segment.payload, segment.flags.fin)) =
      [(7, [], false), (8, [1, 2], false), (8, [1, 2], false), (10, [], true)] ∧
    (freshSegments clientKey receivingEntries).map
      (fun segment => (segment.sequenceNumber, segment.payload)) = numbered 8 [[1, 2]] := by
  have hfit : ∀ entry ∈ (execute (scriptedRelay (.ok ())) 4 [.payload [1, 2], .closed]
      receivingClient).trace, PayloadsFit (entry.callsOf clientKey) := by decide
  have hbegins : Begins (.ofClient 7 (clientSegment 100 0 0x0002 [])) receivingEntries := by decide
  have h := server_stream_consistency (scriptedRelay (.ok ())) 4 [.payload [1, 2], .closed]
    clientKey receivingClient hfit _ receivingEntries hbegins List.prefix_rfl
  exact ⟨by decide, by decide, h.2.2.1⟩

end KeliNative.Tun
