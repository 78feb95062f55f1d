import KeliNative.Lib.Stream
import KeliNative.Tun.Runs
import KeliNative.Tun.Script

/-!
# The client's byte stream

A client may lose, repeat, reorder, re-split and overlap its segments.
-/

namespace KeliNative.Tun
open TunTcpSessionTable List
open UInt32 (ofNat ofNat_add)

def written (calls : List RelayEvent) : Bytes :=
  calls.flatMap fun
    | .write frame _ => frame.payload
    | _ => []

theorem written_append (calls calls' : List RelayEvent) :
    written (calls ++ calls') = written calls ++ written calls' := flatMap_append

section

variable (calls : List RelayEvent) (session : TunTcpSessionRecord) (result : Except String Unit)

@[simp] theorem written_nil : written [] = [] := rfl

@[simp] theorem written_establish (plan : Option TunPacketRelayPlan) :
    written (.establish session plan result :: calls) = written calls := rfl

@[simp] theorem written_write (frame : TunTcpClientPayloadFrame) :
    written (.write frame result :: calls) = frame.payload ++ written calls := rfl

@[simp] theorem written_shutdown : written (.shutdown session result :: calls) = written calls := rfl

@[simp] theorem written_close : written (.close session result :: calls) = written calls := rfl

theorem written_readCall {control : Control} {read : Except String TunTcpServerRead}
    {ev : RelayEvent} (h : ReadCall session read control ev) :
    written (ev :: calls) = written calls := by
  cases h <;> rfl

theorem written_finCalls {a : Arrival} {r : TunTcpSessionRecord} {pkt : Bytes}
    {calls : List RelayEvent} {result : Except String Unit}
    (h : a.FinCalls r pkt calls result) : written calls = a.segment.payload := by
  cases h <;> simp_all [Arrival.finFrame]

end

/-- The segments a client may send for the stream numbered from `isn + 1` on. -/
structure ClientSegment (stream : Bytes) (isn : UInt32) (segment : TunTcpSegment) : Prop where
  syn : segment.flags.syn = true → isInitialTcpSynSegment segment = true ∧ segment.payload = [] ∧
    segment.sequenceNumber = isn
  data : segment.payload ≠ [] → ∃ offset, segment.sequenceNumber = isn + 1 + UInt32.ofNat offset ∧
    offset + segment.payload.length ≤ stream.length ∧
    segment.payload = streamSlice stream offset segment.payload.length
  fin : segment.flags.fin = true → segment.flags.syn = false → ∃ offset,
    segment.sequenceNumber = isn + 1 + UInt32.ofNat offset ∧
    offset + segment.payload.length = stream.length

/-- How far the session has come when `n` bytes of the stream were handed to the relay. -/
structure TunTcpSessionRecord.Received (stream : Bytes) (isn : UInt32) (n : ℕ)
    (r : TunTcpSessionRecord) : Prop where
  handshake : r.phase = .synReceived → n = 0
  finished : r.phase = .clientFinReceived → n = stream.length
  next : r.clientNextSequenceNumber =
    isn + 1 + UInt32.ofNat n + if r.phase = .clientFinReceived then 1 else 0

/-- The invariant of the client's stream: `bytes` were handed to the relay so far. -/
structure FlowState.Received (stream : Bytes) (isn : UInt32) (state : FlowState) (bytes : Bytes) :
    Prop where
  taken : bytes = stream.take bytes.length
  record : ∀ r, state = .active r → r.Received stream isn bytes.length

section

variable {stream : Bytes} {isn : UInt32} {r : TunTcpSessionRecord} {a : Arrival} {n : ℕ}

theorem taken_length_le {bytes : Bytes} (h : bytes = stream.take bytes.length) :
    bytes.length ≤ stream.length := by
  have hlen := congrArg List.length h
  rw [length_take] at hlen
  omega

theorem offset_unique (isn : UInt32) {off : ℕ} (hstr : stream.length < 2 ^ 32 - 2)
    (hn : n ≤ stream.length) (hoff : off ≤ stream.length)
    (h : isn + 1 + ofNat off = isn + 1 + ofNat n) : off = n := by
  refine SeqNum.ofNat_inj (by omega) (by omega) ?_
  exact (UInt32.add_right_inj (isn + 1)).mp h

/- The bytes a data segment adds are the slice of the stream right after the `n` bytes
taken before. A segment that starts after the expected number never passes the plain
comparisons of the overlap test: its distance would exceed the stream. -/
theorem newBytes_slice (hstr : stream.length < 2 ^ 32 - 2) (hn : n ≤ stream.length)
    (hnext : r.clientNextSequenceNumber = isn + 1 + ofNat n)
    (hcli : ClientSegment stream isn a.segment) (hpay : a.segment.payload ≠ [])
    {bytes : Bytes} (h : a.NewBytes r bytes) : bytes = streamSlice stream n bytes.length ∧
      n + bytes.length ≤ stream.length ∧ a.segment.sequenceNumber +
        ofNat a.segment.payload.length = isn + 1 + ofNat (n + bytes.length) := by
  obtain ⟨off, hseq, hfits, hslice⟩ := hcli.data hpay
  cases h with
  | inOrder h =>
    rw [hseq, hnext] at h
    obtain rfl := offset_unique isn hstr hn (by omega) h
    refine ⟨hslice, hfits, ?_⟩
    rw [hseq, ofNat_add]
    grind
  | overlap _ _ _ hoverlap =>
    have hdistance : r.clientNextSequenceNumber - a.segment.sequenceNumber =
        ofNat n - ofNat off := by
      rw [hnext, hseq]
      grind
    have hval := SeqNum.toNat_sub_eq (ofNat n) (ofNat off)
    simp only [UInt32.toNat_ofNat'] at hval
    rw [hdistance, hval] at hoverlap ⊢
    have hoff : (n % 2 ^ 32 + (2 ^ 32 - off % 2 ^ 32)) % 2 ^ 32 = n - off ∧ off ≤ n := by
      omega
    obtain ⟨hk, hle⟩ := hoff
    rw [hk] at hoverlap ⊢
    have hlength : (a.segment.payload.drop (n - off)).length =
        a.segment.payload.length - (n - off) := length_drop
    refine ⟨?_, by omega, ?_⟩
    · rw [hlength]
      conv_lhs => rw [hslice]
      rw [drop_slice, Nat.add_sub_cancel' hle]
    · rw [hseq, hlength, show n + (a.segment.payload.length - (n - off)) =
        off + a.segment.payload.length by omega, ofNat_add]
      grind

theorem TunTcpSessionRecord.Received.of_same {r r' : TunTcpSessionRecord} (h : r.Received stream isn n)
    (hph : r'.phase = r.phase)
    (hnext : r'.clientNextSequenceNumber = r.clientNextSequenceNumber) :
    r'.Received stream isn n := by
  refine ⟨?_, ?_, ?_⟩
  · rw [hph]
    exact h.handshake
  · rw [hph]
    exact h.finished
  · rw [hnext, hph]
    exact h.next

theorem TunTcpSessionRecord.Received.established_next (h : r.Received stream isn n)
    (hph : r.phase = .established) : r.clientNextSequenceNumber = isn + 1 + ofNat n := by
  simpa [hph] using h.next

theorem received_opened (h : r.Received stream isn n) (hph : r.phase = .synReceived)
    (now : Instant) : (r.opened now).Received stream isn n := by
  refine ⟨nofun, nofun, ?_⟩
  simpa [TunTcpSessionRecord.opened, hph] using h.next

section

variable (hstr : stream.length < 2 ^ 32 - 2) {bytes : Bytes}
  (htaken : bytes = stream.take bytes.length) (h : r.Received stream isn bytes.length)
  (hcli : ClientSegment stream isn a.segment)

include hstr htaken h hcli

theorem received_taken {frame : TunTcpClientPayloadFrame} (hdata : a.TakesData r frame)
    (hfin : a.segment.flags.fin = false) :
    bytes ++ frame.payload = stream.take (bytes ++ frame.payload).length ∧
      (r.taken a.segment a.now).Received stream isn (bytes ++ frame.payload).length := by
  obtain ⟨hph, hpay, _, hsyn, _, _⟩ := acceptsClientData_iff.mp hdata.accepts
  obtain ⟨hslice, hfits, hnext⟩ := newBytes_slice hstr (taken_length_le htaken)
    (h.established_next hph) hcli hpay hdata.bytes
  rw [length_append]
  constructor
  · conv_lhs => rw [htaken, hslice]
    exact take_append_slice stream _ _
  · have hph' : (r.taken a.segment a.now).phase = .established := (taken_phase ..).trans hph
    refine ⟨?_, ?_, ?_⟩
    · rw [hph']
      nofun
    · rw [hph']
      nofun
    · rw [hph']
      show tcpSegmentNextSequenceNumber a.segment = _
      rw [next_of_plain hsyn hfin, hnext]
      simp

theorem received_finished (hfin : isClientFin a.segment = true)
    (hacpt : acceptsClientFin a.segment r = true) :
    bytes ++ a.segment.payload = stream.take (bytes ++ a.segment.payload).length ∧
      (r.finished a.segment a.now).Received stream isn (bytes ++ a.segment.payload).length := by
  obtain ⟨hph, hseq, _⟩ := acceptsClientFin_iff.mp hacpt
  obtain ⟨_, hflag, hsyn, _⟩ := isClientFin_iff.mp hfin
  have hlength := taken_length_le htaken
  obtain ⟨off, hoff, hend⟩ := hcli.fin hflag hsyn
  have hnext := h.established_next hph
  obtain rfl : off = bytes.length := by
    refine offset_unique isn hstr hlength (by omega) ?_
    rw [← hoff, hseq, hnext]
  have hwhole : bytes ++ a.segment.payload = stream := by
    by_cases hpay : a.segment.payload = []
    · rw [hpay, length_nil, Nat.add_zero] at hend
      rw [hpay, append_nil, htaken, hend, take_length]
    · obtain ⟨off, hoff', hfits, hslice⟩ := hcli.data hpay
      obtain rfl : off = bytes.length := by
        refine offset_unique isn hstr hlength (by omega) ?_
        rw [← hoff', hoff]
      conv_lhs => rw [htaken, hslice]
      rw [take_append_slice, hend, take_length]
  rw [hwhole]
  refine ⟨take_length.symm, ⟨nofun, fun _ => rfl, ?_⟩⟩
  show tcpSegmentNextSequenceNumber a.segment = _
  rw [next_of_fin hsyn hflag, hseq, hnext, ← hend, ofNat_add]
  simp [TunTcpSessionRecord.finished, UInt32.add_assoc]

end

variable {key : TunTcpSessionKey} {control c' : Control} {state state' : FlowState}
  {calls : List RelayEvent} {packets : List Bytes} {bytes : Bytes}

theorem FlowState.Received.left (h : state.Received stream isn bytes)
    (hst : state'.session = none) : state'.Received stream isn bytes := by
  refine ⟨h.taken, ?_⟩
  rintro r rfl
  cases hst

theorem FlowState.Received.kept {r' : TunTcpSessionRecord}
    (h : (FlowState.active r).Received stream isn bytes) (hph : r'.phase = r.phase)
    (hnext : r'.clientNextSequenceNumber = r.clientNextSequenceNumber) :
    (FlowState.active r').Received stream isn bytes := by
  refine ⟨h.taken, ?_⟩
  rintro r'' ⟨⟩
  exact (h.record r rfl).of_same hph hnext

theorem FlowStep.received (hstr : stream.length < 2 ^ 32 - 2)
    (hcli : ClientSegment stream isn a.segment)
    (step : FlowStep key a control state calls packets c' state')
    (h : state.Received stream isn bytes) : state'.Received stream isn (bytes ++ written calls) := by
  cases step with
  | opened hopens =>
    rw [written_establish, written_nil, append_nil]
    refine ⟨h.taken, ?_⟩
    rintro r' ⟨⟩
    exact received_opened (h.record _ rfl) hopens.phase a.now
  | wrote _ hdata hfin =>
    obtain ⟨htaken, hrecord⟩ := received_taken hstr h.taken (h.record _ rfl) hcli hdata hfin
    rw [written_write, written_nil, append_nil]
    refine ⟨htaken, ?_⟩
    rintro r' ⟨⟩
    exact hrecord
  | finTaken hfin hacpt _ hcalls =>
    obtain ⟨htaken, hrecord⟩ :=
      received_finished hstr h.taken (h.record _ rfl) hcli hfin hacpt
    rw [written_finCalls hcalls]
    refine ⟨htaken, ?_⟩
    rintro r' ⟨⟩
    exact hrecord
  | readFailed _ _ hcall | readNothing _ hcall | oversized _ hcall =>
    rw [written_readCall _ _ hcall, written_nil, append_nil]
    exact h
  | sent _ hcall =>
    rw [written_readCall _ _ hcall, written_nil, append_nil]
    exact h.kept rfl rfl
  | closedByServer _ hcall =>
    rw [written_readCall _ _ hcall, written_close, written_nil, append_nil]
    exact h.left rfl
  | removedByFin | removedByRst =>
    rw [written_close, written_nil, append_nil]
    exact h.left rfl
  | synAckAgain | touched | retransmitted =>
    rw [written_nil, append_nil]
    exact h.kept rfl rfl
  | ackedData | polled | clientAcked | finAgain =>
    rw [written_nil, append_nil]
    exact h.kept (clear_phase ..) (clear_clientNext ..)
  | reset =>
    rw [written_nil, append_nil]
    exact h
  | _ =>
    rw [written_nil, append_nil]
    exact h.left rfl

theorem FlowRun.received (hstr : stream.length < 2 ^ 32 - 2)
    (hcli : ClientSegment stream isn a.segment)
    (run : FlowRun key a control state calls packets c' state')
    (h : state.Received stream isn bytes) : state'.Received stream isn (bytes ++ written calls) := by
  induction run with
  | refl =>
    rw [written_nil, append_nil]
    exact h
  | step run step ih =>
    rw [written_append, ← append_assoc]
    exact step.received hstr hcli (ih h)

theorem newSession_received (hcli : ClientSegment stream isn a.segment)
    (hsyn : isInitialTcpSynSegment a.segment = true) (hfin : a.segment.flags.fin = false) :
    (FlowState.active (a.newSession key)).Received stream isn [] := by
  refine ⟨take_zero.symm, ?_⟩
  rintro r ⟨⟩
  have hflag : a.segment.flags.syn = true := by
    simp only [isInitialTcpSynSegment, Bool.and_eq_true] at hsyn
    exact hsyn.1.1
  obtain ⟨_, hpay, hseq⟩ := hcli.syn hflag
  refine ⟨fun _ => rfl, nofun, ?_⟩
  simp [Arrival.newSession, tcpSegmentNextSequenceNumber, tcpSegmentSequenceLen, hflag, hfin,
    hpay, hseq]

end

/-- The relay is handed a prefix of the client's stream, and the next client number counts it. -/
theorem client_stream_integrity {ρ : Type} (relay : TunTcpSessionRelay ρ) (maxActiveSessions : ℕ)
    (relayState : ρ) (key : TunTcpSessionKey) (stream : Bytes) (isn : UInt32)
    (hstr : stream.length < 2 ^ 32 - 2) (inputs : List Input)
    (hcli : ∀ a, .segment a ∈ inputs → TunTcpSessionKey.fromFlow a.segment.flow = .ok key →
      ClientSegment stream isn a.segment) :
    let e := execute relay maxActiveSessions relayState inputs
    let bytes := written (callsOf key (incarnation key e.trace))
    bytes <+: stream ∧ ∀ r, e.table.sessions.lookup key = some r →
      r.clientNextSequenceNumber = isn + 1 + UInt32.ofNat bytes.length +
        if r.phase = .clientFinReceived then 1 else 0 := by
  intro e bytes
  have hgood : ∀ entry ∈ e.trace, ∀ a, entry.input = .segment a →
      TunTcpSessionKey.fromFlow a.segment.flow = .ok key → ClientSegment stream isn a.segment := by
    intro entry hentry a hin hkey
    exact hcli a (hin ▸ execute_input_mem hentry) hkey
  have hrun := execute_induction relay maxActiveSessions relayState key
    (fun entry => ∀ a, entry.input = .segment a →
      TunTcpSessionKey.fromFlow a.segment.flow = .ok key → ClientSegment stream isn a.segment)
    (fun _ state entries => state.Received stream isn (written (callsOf key entries)))
    ?_ ?_ inputs hgood
  · rcases hrun with ⟨hempty, habsent⟩ | ⟨a, state, _, hat, hrecv⟩
    · have hbytes : bytes = [] := by
        show written (callsOf key (incarnation key e.trace)) = []
        rw [hempty]
        rfl
      refine ⟨hbytes ▸ List.nil_prefix, fun r hr => ?_⟩
      cases habsent.session.symm.trans hr
    · refine ⟨List.prefix_iff_eq_take.mpr hrecv.taken, fun r hr => ?_⟩
      obtain rfl := FlowState.session_eq_some.mp (hat.session.symm.trans hr)
      exact (hrecv.record r rfl).next
  · intro a state entry hgood hstarts
    have hcalls : written (callsOf key [entry]) = [] := by
      simp [callsOf, hstarts.calls]
    rw [hcalls]
    exact newSession_received (hgood a hstarts.input hstarts.key_eq) hstarts.syn hstarts.fin
  · intro a state state' entries entry hgood _ _ _ hcont hrecv
    rw [callsOf_append, written_append]
    cases hcont with
    | idle hcalls =>
      rw [hcalls, written_nil, List.append_nil]
      exact hrecv
    | run hin hkey hrun => exact hrun.received hstr (hgood _ hin hkey) hrecv
    | pruned hcalls =>
      rw [hcalls, written_close, written_nil, List.append_nil]
      exact hrecv.left rfl
    | expired _ hcalls =>
      rw [hcalls, written_nil, List.append_nil]
      exact hrecv.left rfl

/-- A client whose numbers wrap and whose second data segment repeats a byte of the first. -/
def overlappingClient : List TunTcpSegment :=
  [clientSegment 0xfffffffe 0 0x0002 [], clientSegment 0xffffffff 8 0x0010 [],
    clientSegment 0xffffffff 8 0x0018 [1, 2], clientSegment 0 8 0x0018 [2, 3]]

theorem overlappingClient_segments :
    ∀ segment ∈ overlappingClient, ClientSegment [1, 2, 3] 0xfffffffe segment := by
  simp only [overlappingClient, forall_mem_cons, not_mem_nil, false_imp_iff,
    implies_true, and_true]
  refine ⟨⟨by decide, fun h => absurd rfl h, fun h => absurd h (by decide)⟩,
    ⟨by decide, fun h => absurd rfl h, fun h => absurd h (by decide)⟩,
    ⟨by decide, fun _ => ⟨0, by decide⟩, fun h => absurd h (by decide)⟩,
    ⟨by decide, fun _ => ⟨1, by decide⟩, fun h => absurd h (by decide)⟩⟩

theorem client_stream_integrity_overlapping :
    let inputs := overlappingClient.map fun segment => Input.segment (.ofClient 7 segment)
    let e := execute (scriptedRelay (.ok ())) 4 [] inputs
    let bytes := written (callsOf clientKey (incarnation clientKey e.trace))
    bytes = [1, 2, 3] ∧ bytes <+: [1, 2, 3] := by
  refine ⟨by decide, ?_⟩
  refine (client_stream_integrity (scriptedRelay (.ok ())) 4 [] clientKey [1, 2, 3] 0xfffffffe
    (by decide) _ ?_).1
  intro a ha _
  obtain ⟨segment, hseg, heq⟩ := List.mem_map.mp ha
  cases heq
  exact overlappingClient_segments segment hseg

end KeliNative.Tun
