import KeliNative.Tun.Script
import KeliNative.Tun.ServerReads

/-!
# Acknowledgments of long transfers

Numbers are taken modulo 2^32, so after 2^32 bytes the window is empty again.
-/

namespace KeliNative.Tun
open TunTcpSessionTable Program List
open UInt32 (ofNat ofNat_add)

section

variable {r : TunTcpSessionRecord} {sent : ℕ}
  (hnext : r.serverNextSequenceNumber = r.serverInitialSequenceNumber + 1 + UInt32.ofNat sent)

include hnext

theorem known_back_iff {k : ℕ} (hsent : k ≤ sent) (hk : k ≤ 65535) {seg : TunTcpSegment}
    (hack : seg.acknowledgmentNumber = r.serverNextSequenceNumber - ofNat k) :
    tcpSegmentAcknowledgesKnownServerSequence seg r = true ↔ k ≤ sent % 2 ^ 32 := by
  have hnum : r.serverInitialSequenceNumber + 1 + ofNat sent - ofNat k =
      r.serverInitialSequenceNumber + 1 + ofNat (sent - k) := by
    rw [UInt32.ofNat_sub hsent]
    grind
  rw [tcpSegmentAcknowledgesKnownServerSequence, SeqNum.between_iff, hack, hnext, hnum,
    SeqNum.offset_ofNat, SeqNum.offset_ofNat]
  omega

theorem not_known_ahead {j : ℕ} (hj : 1 ≤ j) (hj' : j ≤ 65535) {seg : TunTcpSegment}
    (hwindow : SeqNum.offset (r.serverInitialSequenceNumber + 1) r.serverNextSequenceNumber <
      2 ^ 32 - 65536)
    (hack : seg.acknowledgmentNumber = r.serverNextSequenceNumber + ofNat j) :
    tcpSegmentAcknowledgesKnownServerSequence seg r = false := by
  have hnum : r.serverInitialSequenceNumber + 1 + ofNat sent + ofNat j =
      r.serverInitialSequenceNumber + 1 + ofNat (sent + j) := by
    rw [ofNat_add, UInt32.add_assoc _ (ofNat sent)]
  rw [hnext, SeqNum.offset_ofNat] at hwindow
  rw [← Bool.not_eq_true, tcpSegmentAcknowledgesKnownServerSequence, SeqNum.between_iff, hack, hnext,
    hnum, SeqNum.offset_ofNat, SeqNum.offset_ofNat]
  omega

end

/-- The bytes of the payloads that are sent. One that does not fit a packet is refused. -/
def sentBytes (calls : List RelayEvent) : ℕ := (serverStream (calls.filter RelayEvent.fits)).length

theorem sentBytes_append (calls calls' : List RelayEvent) :
    sentBytes (calls ++ calls') = sentBytes calls + sentBytes calls' := by
  rw [sentBytes, filter_append, serverStream_append, length_append, sentBytes, sentBytes]

theorem sentBytes_of_chunks {calls : List RelayEvent} (h : serverChunks calls = []) :
    sentBytes calls = 0 := by
  have hsublist : (serverChunks (calls.filter RelayEvent.fits)).Sublist (serverChunks calls) :=
    filter_sublist.filterMap _
  rw [h] at hsublist
  rw [sentBytes, serverStream_of_chunks (sublist_nil.mp hsublist), length_nil]

section

variable {r : TunTcpSessionRecord} {control : Control} {event : RelayEvent} {payload : Bytes}
  (h : ReadCall r (.ok (.payload payload)) control event)

include h

theorem ReadCall.fits_eq :
    event.fits = decide (payload.length ≤ maxTcpPayloadLen r.flow.ipVersion) := by
  cases h <;> rfl

theorem ReadCall.sentBytes (hpay : payload ≠ [])
    (hsize : payload.length ≤ maxTcpPayloadLen r.flow.ipVersion) :
    sentBytes [event] = payload.length := by
  have hfits : event.fits = true := h.fits_eq.trans (decide_eq_true hsize)
  rw [Tun.sentBytes, filter_cons_of_pos hfits, filter_nil, serverStream,
    serverChunks_payload h hpay, flatten_singleton]

theorem ReadCall.sentBytes_oversized (hsize : maxTcpPayloadLen r.flow.ipVersion < payload.length) :
    Tun.sentBytes [event] = 0 := by
  have hfits : ¬event.fits = true := by
    rw [h.fits_eq, decide_eq_true_eq]
    omega
  rw [Tun.sentBytes, filter_cons_of_neg hfits]
  rfl

end

structure FlowState.Counts (isn : UInt32) (sent : ℕ) (state : FlowState) : Prop where
  initial : ∀ r, state = .active r → r.serverInitialSequenceNumber = isn
  next : ∀ r, state = .active r → r.serverNextSequenceNumber = isn + 1 + UInt32.ofNat sent

section

variable {key : TunTcpSessionKey} {a : Arrival} {isn : UInt32} {control c' : Control}
  {state state' : FlowState} {calls : List RelayEvent} {packets : List Bytes} {sent : ℕ}

theorem FlowStep.sent_or_kept (step : FlowStep key a control state calls packets c' state') :
    (sentBytes calls = 0 ∧
      ∀ r', state' = .active r' → ∃ r, state = .active r ∧ NumbersKept a r r') ∨
    ∃ r payload, state = .active r ∧ state' = .active (r.sent payload a.now) ∧
      sentBytes calls = payload.length := by
  have hquiet : serverChunks calls = [] → sentBytes calls = 0 ∧
      ∀ r', state' = .active r' → ∃ r, state = .active r ∧ NumbersKept a r r' := by
    intro hchs
    refine ⟨sentBytes_of_chunks hchs, ?_⟩
    rintro r' rfl
    obtain ⟨r, hr, ⟨payload, hsends⟩ | hkept⟩ := step.sends_or_keeps
    · rw [hsends.chunks] at hchs
      cases hchs
    · exact ⟨r, hr, hkept⟩
  cases step with
  | sent _ hcall hpay hbuild =>
    exact .inr ⟨_, _, rfl, rfl, hcall.sentBytes hpay ((build_isOk_iff ..).mp ⟨_, hbuild⟩).2⟩
  | oversized _ hcall hsize =>
    refine .inl ⟨hcall.sentBytes_oversized hsize, ?_⟩
    rintro r' ⟨⟩
    exact ⟨_, rfl, .refl a _⟩
  | finTaken _ _ _ hcalls => exact .inl (hquiet (serverChunks_finCalls hcalls))
  | readFailed _ _ hcall => exact .inl (hquiet (serverChunks_readCall hcall (by simp) []))
  | readNothing _ hcall hread =>
    refine .inl (hquiet (serverChunks_readCall hcall ?_ []))
    rintro payload ⟨⟩
    simpa using hread
  | closedByServer _ hcall => exact .inl (hquiet (serverChunks_readCall hcall (by simp) _))
  | _ => exact .inl (hquiet rfl)

theorem FlowStep.counts (step : FlowStep key a control state calls packets c' state')
    (h : state.Counts isn sent) : state'.Counts isn (sent + sentBytes calls) := by
  rcases step.sent_or_kept with ⟨hzero, hkeeps⟩ | ⟨r, payload, rfl, rfl, hbytes⟩
  · rw [hzero]
    refine ⟨?_, ?_⟩
    · intro r' hr'
      obtain ⟨r, hr, hkept⟩ := hkeeps r' hr'
      exact hkept.initial.trans (h.initial r hr)
    · intro r' hr'
      obtain ⟨r, hr, hkept⟩ := hkeeps r' hr'
      exact hkept.next.trans (h.next r hr)
  · refine ⟨?_, ?_⟩
    · rintro r' ⟨⟩
      exact h.initial r rfl
    · rintro r' ⟨⟩
      rw [hbytes, ofNat_add, ← UInt32.add_assoc, ← h.next r rfl]
      rfl

theorem FlowRun.counts (run : FlowRun key a control state calls packets c' state')
    (h : state.Counts isn sent) : state'.Counts isn (sent + sentBytes calls) := by
  induction run with
  | refl => exact h
  | step run step ih =>
    rw [sentBytes_append, ← Nat.add_assoc]
    exact step.counts (ih h)

theorem Continues.counts {entry : Entry} (hcont : Continues key entry state state')
    (h : state.Counts isn sent) : state'.Counts isn (sent + sentBytes (entry.callsOf key)) := by
  cases hcont with
  | idle hcalls =>
    rw [hcalls]
    exact h
  | run _ _ hrun => exact hrun.counts h
  | pruned | expired =>
    refine ⟨?_, ?_⟩
    · rintro r ⟨⟩
    · rintro r ⟨⟩

theorem Starts.counts {entry : Entry} (h : Starts key a entry state) :
    (FlowState.active (a.newSession key)).Counts a.serverInitialSequenceNumber
      (sentBytes (callsOf key [entry])) := by
  have hcalls : callsOf key [entry] = [] := by simp [callsOf, h.calls]
  rw [hcalls]
  refine ⟨?_, ?_⟩
  · rintro r ⟨⟩
    rfl
  · rintro r ⟨⟩
    exact (UInt32.add_zero _).symm

end

section

variable {ρ : Type} (relay : TunTcpSessionRelay ρ) (maxActiveSessions : ℕ) (relayState : ρ)
  (key : TunTcpSessionKey) (inputs : List Input)

/-- The bytes the server side has sent since the session under `key` was started. -/
def bytesSent : ℕ :=
  sentBytes (callsOf key (incarnation key (execute relay maxActiveSessions relayState inputs).trace))

variable {r : TunTcpSessionRecord}
  (hr : (execute relay maxActiveSessions relayState inputs).table.sessions.lookup key = some r)

include hr

theorem next_of_bytesSent : r.serverNextSequenceNumber = r.serverInitialSequenceNumber + 1 +
    ofNat (bytesSent relay maxActiveSessions relayState key inputs) := by
  rcases execute_induction relay maxActiveSessions relayState key (fun _ => True)
    (fun a state entries =>
      state.Counts a.serverInitialSequenceNumber (sentBytes (callsOf key entries)))
    (fun _ _ _ _ hstarts => hstarts.counts)
    (fun _ _ _ _ _ _ _ _ _ hcont h => by
      rw [callsOf_append, sentBytes_append]
      exact hcont.counts h) inputs (fun _ _ => trivial) with
    ⟨_, habsent⟩ | ⟨a, state, _, hat, hcounts⟩
  · rw [habsent.session] at hr
    cases hr
  · obtain rfl := FlowState.session_eq_some.mp (hat.session.symm.trans hr)
    rw [hcounts.initial r rfl]
    exact hcounts.next r rfl

/-- Recent acknowledgments are known exactly if so many bytes were sent since the last multiple of
2^32. -/
theorem recent_acknowledgments_iff (_hphase : r.phase = .established) :
    let sent := bytesSent relay maxActiveSessions relayState key inputs
    ((∀ k ≤ min 65535 sent, ∀ segment : TunTcpSegment,
      segment.acknowledgmentNumber = r.serverNextSequenceNumber - UInt32.ofNat k →
      tcpSegmentAcknowledgesKnownServerSequence segment r = true) ∧
    (SeqNum.offset (r.serverInitialSequenceNumber + 1) r.serverNextSequenceNumber <
        2 ^ 32 - 65536 →
      ∀ j, 1 ≤ j → j ≤ 65535 → ∀ segment : TunTcpSegment,
      segment.acknowledgmentNumber = r.serverNextSequenceNumber + UInt32.ofNat j →
      tcpSegmentAcknowledgesKnownServerSequence segment r = false)) ↔
    min 65535 sent ≤ sent % 2 ^ 32 := by
  intro sent
  have hnext := next_of_bytesSent relay maxActiveSessions relayState key inputs hr
  constructor
  · intro h
    have hknown := h.1 (min 65535 sent) le_rfl
      (clientSegment 0 (r.serverNextSequenceNumber - UInt32.ofNat (min 65535 sent)) 0x0010 []) rfl
    exact (known_back_iff hnext (min_le_right _ _) (min_le_left _ _) rfl).mp hknown
  · intro hle
    refine ⟨fun k hk segment hack => ?_, fun hwindow j hj hj' segment hack =>
      not_known_ahead hnext hj hj' hwindow hack⟩
    have hk' : k ≤ 65535 ∧ k ≤ sent := le_min_iff.mp hk
    exact (known_back_iff hnext hk'.2 hk'.1 hack).mpr (hk.trans hle)

end

/-- A server that always has 32768 bytes. -/
def pumpChunk : Bytes := List.replicate 32768 0

theorem pumpChunk_length : pumpChunk.length = 32768 := length_replicate

theorem pumpChunk_ne_nil : pumpChunk ≠ [] := by
  intro hnil
  have hlen := pumpChunk_length
  rw [hnil] at hlen
  cases hlen

def pumpRelay : TunTcpSessionRelay Unit where
  establishSession _ _ := (.ok (), ())
  establishSessionWithPlan _ _ _ := (.ok (), ())
  writeClientPayload _ _ := (.ok (), ())
  shutdownClientWrite _ _ := (.ok (), ())
  readServerEvent _ _ := (.ok .noPayload, ())
  pollServerEvent _ _ := (.ok (.payload pumpChunk), ())
  closeSession _ _ := (.ok (), ())

/-- A session of the transfer after `sent` bytes. -/
structure Pumping (sent : ℕ) (r : TunTcpSessionRecord) : Prop where
  key : r.key = clientKey
  flow : r.flow = clientFlow
  phase : r.phase = .established
  initial : r.serverInitialSequenceNumber = 7
  next : r.serverNextSequenceNumber = 8 + UInt32.ofNat sent
  unacked : ∀ unacked, r.serverUnackedPayload = some unacked →
    unacked.sequenceNumber ≠ r.serverNextSequenceNumber

/-- The client acknowledges all it has received. -/
def ackOf (r : TunTcpSessionRecord) : TunTcpSegment :=
  clientSegment r.clientNextSequenceNumber r.serverNextSequenceNumber 0x0010 []

theorem ackOf_flags (r : TunTcpSessionRecord) : (ackOf r).flags.ack = true ∧
    (ackOf r).flags.syn = false ∧ (ackOf r).flags.rst = false ∧ (ackOf r).flags.fin = false := by
  show (TunTcpFlags.fromBits 0x0010).ack = true ∧ (TunTcpFlags.fromBits 0x0010).syn = false ∧
    (TunTcpFlags.fromBits 0x0010).rst = false ∧ (TunTcpFlags.fromBits 0x0010).fin = false
  decide

theorem isPureAck_ackOf (r : TunTcpSessionRecord) : isPureAck (ackOf r) = true := by
  obtain ⟨hack, hsyn, hrst, hfin⟩ := ackOf_flags r
  rw [isPureAck, hack, hsyn, hrst, hfin]
  rfl

section

variable {ρ α : Type} {table table' : TunTcpSessionTable} {relayState : ρ}
  {operation : TableProgram (Option α)} {found : α → SessionProgram ρ TunTcpSessionStep}
  {next : SessionProgram ρ TunTcpSessionStep}
  {post : Except TunTcpSessionError TunTcpSessionStep → TunTcpSessionTable × ρ → Prop}

theorem ensures_skip (h : operation table = (.ok none, table))
    (hnext : Ensures next (table, relayState) post) :
    Ensures (ifLet (onTable operation) found next) (table, relayState) post := by
  have hrun : onTable operation (table, relayState) = (.ok none, (table, relayState)) := by
    simp only [onTable, h, Except.mapError]
  unfold Ensures ifLet Program.bind
  rw [hrun]
  exact hnext

theorem ensures_found {a : α} (h : operation table = (.ok (some a), table'))
    (hfound : Ensures (found a) (table', relayState) post) :
    Ensures (ifLet (onTable operation) found next) (table, relayState) post := by
  have hrun : onTable operation (table, relayState) = (.ok (some a), (table', relayState)) := by
    simp only [onTable, h, Except.mapError]
  unfold Ensures ifLet Program.bind
  rw [hrun]
  exact hfound

end

section

variable {table : TunTcpSessionTable} {r : TunTcpSessionRecord} {sent : ℕ}

def TunTcpSessionRecord.polled (r : TunTcpSessionRecord) : TunTcpSessionRecord :=
  { r with serverUnackedPayload := none, lastActivityAt := 0 }

theorem poll_pump (h : Pumping sent r) (hr : table.sessions.lookup clientKey = some r) :
    serverPayloadPollSession (ackOf r) 0 table = (.ok (some r.polled),
      { table with sessions := table.sessions.replace clientKey r.polled }) := by
  have hkey : TunTcpSessionKey.fromFlow (ackOf r).flow = .ok clientKey := fromFlow_clientFlow
  have hacpt : tunTcpPhaseAcceptsServerResponse r.phase = true := by
    rw [h.phase]
    rfl
  have hcleared : clearServerUnackedPayloadIfLatestAcknowledged (ackOf r) r =
      { r with serverUnackedPayload := none } := if_pos rfl
  unfold serverPayloadPollSession
  rw [if_neg (by rw [isPureAck_ackOf]; decide)]
  simp only [withSession, hkey, hr]
  rw [if_pos ⟨hacpt, rfl, rfl⟩, hcleared]
  rfl

theorem Pumping.send (h : Pumping sent r) {chunk : Bytes} (hlen : chunk.length = 32768) :
    Pumping (sent + 32768) (r.sent chunk 0) := by
  refine ⟨h.key, h.flow, h.phase, h.initial, ?_, ?_⟩
  · show r.serverNextSequenceNumber + ofNat chunk.length = _
    rw [h.next, hlen, ofNat_add, UInt32.add_assoc]
  · rintro unacked ⟨⟩
    show r.serverNextSequenceNumber ≠ r.serverNextSequenceNumber + ofNat chunk.length
    rw [hlen]
    intro hsame
    have hzero : ofNat 32768 = 0 := by grind
    exact absurd hzero (by decide +kernel)

theorem send_pump (h : Pumping sent r) (hr : table.sessions.lookup clientKey = some r) :
    ∃ frame r', Pumping (sent + 32768) r' ∧
      sendServerPayload clientFlow pumpChunk 0 table = (.ok (some frame),
        { table with sessions := table.sessions.replace clientKey r' }) := by
  have hacpt : tunTcpPhaseAcceptsServerResponse r.phase = true := by
    rw [h.phase]
    rfl
  have hbuildable : clientFlow.Buildable := ⟨rfl, rfl, rfl, rfl⟩
  obtain ⟨pkt, hpkt⟩ := (build_isOk_iff r.flow r.serverNextSequenceNumber
    r.clientNextSequenceNumber (.fromBits 0x0018) r.windowSize pumpChunk).mpr
    (by rw [h.flow, pumpChunk_length]; exact ⟨hbuildable, by decide⟩)
  have hpkt' : buildTunTcpPayloadResponsePacket r.flow r.serverNextSequenceNumber
      r.clientNextSequenceNumber r.windowSize pumpChunk = .ok pkt := hpkt
  have hsend : ∃ frame, sendServerPayload clientFlow pumpChunk 0 table = (.ok (some frame),
      { table with sessions := table.sessions.replace clientKey (r.sent pumpChunk 0) }) := by
    unfold sendServerPayload
    simp only [withSession, fromFlow_clientFlow, hr]
    rw [if_pos ⟨hacpt, pumpChunk_ne_nil⟩]
    simp only [hpkt']
    exact ⟨_, rfl⟩
  obtain ⟨frame, hsend⟩ := hsend
  exact ⟨frame, _, h.send pumpChunk_length, hsend⟩

theorem skip_pump (h : Pumping sent r) (hr : table.sessions.lookup clientKey = some r) :
    applyAck (ackOf r) 0 table = (.ok none, table) ∧
    acceptClientPayload (ackOf r) 0 table = (.ok none, table) ∧
    acceptOverlappingClientPayload (ackOf r) 0 table = (.ok none, table) ∧
    acknowledgeDuplicateClientPayload (ackOf r) 0 table = (.ok none, table) ∧
    acknowledgeOutOfOrderClientPayload (ackOf r) 0 table = (.ok none, table) ∧
    retransmitServerPayload (ackOf r) 0 table = (.ok none, table) := by
  have hkey : TunTcpSessionKey.fromFlow (ackOf r).flow = .ok clientKey := fromFlow_clientFlow
  have hdata : acceptsClientData (ackOf r) r = false := by
    simp [acceptsClientData, ackOf, clientSegment]
  refine ⟨withSession_quiet hkey hr ?_, withSession_quiet hkey hr ?_, withSession_quiet hkey hr ?_,
    withSession_quiet hkey hr ?_, withSession_quiet hkey hr ?_, ?_⟩
  · rw [if_neg]
    rintro ⟨hph, _⟩
    rw [h.phase] at hph
    cases hph
  · rw [if_neg (by simp [hdata])]
  · dsimp only
    rw [if_neg (by simp [hdata])]
  · rw [if_neg (by simp [hdata])]
  · rw [if_neg (by simp [hdata])]
  · unfold retransmitServerPayload
    rw [if_neg (by rw [isPureAck_ackOf]; decide)]
    refine withSession_quiet hkey hr ?_
    cases hunack : r.serverUnackedPayload with
    | none => rfl
    | some unacked =>
      dsimp only
      rw [if_neg]
      rintro ⟨_, _, hsame⟩
      exact h.unacked unacked hunack hsame.symm

theorem pollStep_pump {next : SessionProgram (Unit × List RelayEvent) TunTcpSessionStep}
    {sess : TunTcpSessionRecord}
    {post : Except TunTcpSessionError TunTcpSessionStep →
      TunTcpSessionTable × Unit × List RelayEvent → Prop}
    (h : Ensures (ifLet (onTable (sendServerPayload sess.flow pumpChunk 0))
        (fun resp => Program.pure (TunTcpSessionStep.serverPayload resp)) next)
      (table, ((), [.poll sess (.ok (.payload pumpChunk))])) post) :
    Ensures (pollStep pumpRelay.recording 0 next sess) (table, ((), [])) post := h

theorem process_pump (h : Pumping sent r) (hr : table.sessions.lookup clientKey = some r) :
    Ensures (processTunTcpSessionSegmentWithRelayPlan pumpRelay.recording (ackOf r) none 0 7 0x4000)
      (table, ((), [])) fun _ after => ∃ r', Pumping (sent + 32768) r' ∧
        after.1.sessions.lookup clientKey = some r' ∧
        after.2.2 = [.poll r.polled (.ok (.payload pumpChunk))] := by
  obtain ⟨happly, haccept, hoverlap, hduplicate, hout, hretransmit⟩ := skip_pump h hr
  have hpolled : Pumping sent r.polled :=
    ⟨h.key, h.flow, h.phase, h.initial, h.next, by simp [TunTcpSessionRecord.polled]⟩
  have hlook := KeyMap.lookup_replace_self hr r.polled
  obtain ⟨frame, r', hpumping, hsend⟩ :=
    @send_pump { table with sessions := table.sessions.replace clientKey r.polled } _ _ hpolled hlook
  unfold processTunTcpSessionSegmentWithRelayPlan
  obtain ⟨hack, hsyn, hrst, hfin⟩ := ackOf_flags r
  rw [if_neg (by simp [hrst, hfin]), if_neg (by simp [isInitialTcpSynSegment, hsyn])]
  have hest : Ensures (establishBlock pumpRelay.recording (ackOf r) none 0) (table, ((), []))
      fun established after => established = .ok none ∧ after = (table, ((), [])) := by
    unfold establishBlock
    rw [if_pos (by simp [hack, hsyn])]
    have hrun : onTable (applyAck (ackOf r) 0) (table, ((), ([] : List RelayEvent))) =
        (.ok none, (table, ((), []))) := by
      simp only [onTable, happly, Except.mapError]
    unfold Ensures ifLet Program.bind
    rw [hrun]
    exact ⟨rfl, rfl⟩
  refine ensures_bind hest ?_ ?_
  · rintro established after ⟨hnone, rfl⟩
    cases hnone
    refine ensures_skip haccept (ensures_skip hoverlap (ensures_skip hduplicate
      (ensures_skip hout (ensures_skip hretransmit (ensures_found (poll_pump h hr) ?_)))))
    have hflow : r.polled.flow = clientFlow := h.flow
    refine pollStep_pump ?_
    rw [hflow]
    exact ensures_found hsend ⟨r', hpumping, KeyMap.lookup_replace_self hlook r', rfl⟩
  · rintro error after ⟨herr, _⟩
    cases herr

end

def pumpHandshake : List Input :=
  [.segment (.ofClient 7 (clientSegment 100 0 0x0002 [])),
    .segment (.ofClient 7 (clientSegment 101 8 0x0010 []))]

theorem pump_start : ∃ r,
    (execute pumpRelay 1 () pumpHandshake).table.sessions.lookup clientKey = some r ∧
      Pumping 0 r := by
  have hopen : ((execute pumpRelay 1 () pumpHandshake).table.sessions.lookup clientKey).any
      (fun r => decide (r.key = clientKey ∧ r.flow = clientFlow ∧ r.phase = .established ∧
        r.serverInitialSequenceNumber = 7 ∧ r.serverNextSequenceNumber = 8 ∧
        r.serverUnackedPayload = none)) = true := by
    decide +kernel
  cases hr : (execute pumpRelay 1 () pumpHandshake).table.sessions.lookup clientKey with
  | none =>
    rw [hr] at hopen
    cases hopen
  | some r =>
    rw [hr, Option.any_some, decide_eq_true_eq] at hopen
    obtain ⟨hkey, hflow, hph, hinitial, hnext, hunack⟩ := hopen
    refine ⟨r, rfl, hkey, hflow, hph, hinitial, hnext, fun unacked h => ?_⟩
    rw [hunack] at h
    cases h

theorem pump_run (chunks : ℕ) : ∃ inputs r,
    (execute pumpRelay 1 () inputs).table.sessions.lookup clientKey = some r ∧
      Pumping (chunks * 32768) r ∧
      incarnation clientKey (execute pumpRelay 1 () inputs).trace ≠ [] ∧
      bytesSent pumpRelay 1 () clientKey inputs = chunks * 32768 := by
  induction chunks with
  | zero =>
    obtain ⟨r, hr, hpumping⟩ := pump_start
    have hsome : (incarnation clientKey (execute pumpRelay 1 () pumpHandshake).trace).isEmpty =
        false := by
      decide +kernel
    refine ⟨pumpHandshake, r, hr, by rwa [Nat.zero_mul], ?_, by decide +kernel⟩
    intro hnil
    rw [hnil] at hsome
    cases hsome
  | succ chunks ih =>
    obtain ⟨inputs, r, hr, hpumping, hne, hsent⟩ := ih
    have hstep := process_pump hpumping hr
    obtain ⟨r', hpumping', hr', hcalls⟩ := hstep
    refine ⟨inputs ++ [.segment (.ofClient 7 (ackOf r))], r', ?_⟩
    have htrace : (execute pumpRelay 1 () (inputs ++ [.segment (.ofClient 7 (ackOf r))])).trace =
        (execute pumpRelay 1 () inputs).trace ++
          [((execute pumpRelay 1 () inputs).react pumpRelay (.segment (.ofClient 7 (ackOf r)))).1] := by
      rw [execute_append, Execution.advance_trace]
    generalize hentry : ((execute pumpRelay 1 () inputs).react pumpRelay
      (.segment (.ofClient 7 (ackOf r)))).1 = entry at htrace
    have hafter : entry.after.sessions.lookup clientKey = some r' := by
      rw [← hentry]
      exact hr'
    have hentryCalls : entry.calls = [.poll r.polled (.ok (.payload pumpChunk))] := by
      rw [← hentry]
      exact hcalls
    have hkey : r.polled.key = clientKey := hpumping.key
    have hcallsOf : entry.callsOf clientKey = [.poll r.polled (.ok (.payload pumpChunk))] := by
      rw [Entry.callsOf, hentryCalls, filter_cons_of_pos (by simp [RelayEvent.key, hkey])]
      rfl
    have hopens : entry.opens clientKey = false := by
      simp [Entry.opens, hafter, hpumping'.phase]
    have hinc : incarnation clientKey ((execute pumpRelay 1 () inputs).trace ++ [entry]) =
        incarnation clientKey (execute pumpRelay 1 () inputs).trace ++ [entry] :=
      epoch_append_of_continues hopens hne
    have hfits : pumpChunk.length ≤ maxTcpPayloadLen r.polled.flow.ipVersion := by
      rw [show r.polled.flow = clientFlow from hpumping.flow, pumpChunk_length]
      decide
    have hchunk : sentBytes [RelayEvent.poll r.polled (.ok (.payload pumpChunk))] = 32768 :=
      (ReadCall.poll.sentBytes pumpChunk_ne_nil hfits).trans pumpChunk_length
    refine ⟨?_, ?_, ?_, ?_⟩
    · rw [execute_append, Execution.advance_table, hentry]
      exact hafter
    · rw [Nat.succ_mul]
      exact hpumping'
    · rw [htrace, hinc]
      simp
    · rw [bytesSent, htrace, hinc, callsOf_append, hcallsOf, sentBytes_append, hchunk,
        Nat.succ_mul, ← hsent, bytesSent]

theorem recent_acknowledgments_pumped : ∃ inputs r,
    (execute pumpRelay 1 () inputs).table.sessions.lookup clientKey = some r ∧
      bytesSent pumpRelay 1 () clientKey inputs = 65536 ∧
      ∀ segment : TunTcpSegment,
        segment.acknowledgmentNumber = r.serverNextSequenceNumber - UInt32.ofNat 32768 →
        tcpSegmentAcknowledgesKnownServerSequence segment r = true := by
  obtain ⟨inputs, r, hr, hpumping, -, hsent⟩ := pump_run 2
  have h := (recent_acknowledgments_iff pumpRelay 1 () clientKey inputs hr hpumping.phase).mpr
    (by rw [hsent]; decide)
  exact ⟨inputs, r, hr, hsent, h.1 32768 (by rw [hsent]; decide)⟩

/-- After 2^32 bytes the acknowledgment of all but the last byte is not known. -/
theorem wrapped_acknowledgment_unknown : ∃ inputs r,
    (execute pumpRelay 1 () inputs).table.sessions.lookup clientKey = some r ∧
      r.phase = .established ∧ bytesSent pumpRelay 1 () clientKey inputs = 2 ^ 32 ∧
      ∀ segment : TunTcpSegment,
        segment.acknowledgmentNumber = r.serverNextSequenceNumber - UInt32.ofNat 1 →
        tcpSegmentAcknowledgesKnownServerSequence segment r = false := by
  obtain ⟨inputs, r, hr, hpumping, _, hsent⟩ := pump_run 131072
  have hnext := next_of_bytesSent pumpRelay 1 () clientKey inputs hr
  have htotal : bytesSent pumpRelay 1 () clientKey inputs = 2 ^ 32 := by
    rw [hsent]
    decide
  refine ⟨inputs, r, hr, hpumping.phase, htotal, fun segment hack => ?_⟩
  rw [← Bool.not_eq_true, known_back_iff hnext (by rw [htotal]; decide) (by decide) hack, htotal]
  decide

end KeliNative.Tun
