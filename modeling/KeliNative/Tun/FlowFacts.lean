import KeliNative.Tun.TableOps

/-!
# Facts about the flow machine

What holds of every transition, and so of every run.
-/

namespace KeliNative.Tun
open TunTcpSessionTable List

def FlowState.Keyed (key : TunTcpSessionKey) (state : FlowState) : Prop :=
  ∀ r, state = .active r → r.key = key

theorem FlowState.WellFormed.keyed {key : TunTcpSessionKey} {state : FlowState}
    (h : state.WellFormed key) : state.Keyed key := by
  rintro r rfl
  exact TunTcpSessionRecord.WellFormed.key_eq h

section

variable {segment : TunTcpSegment} {r : TunTcpSessionRecord}

theorem acceptsClientData_iff : acceptsClientData segment r = true ↔
    r.phase = .established ∧ segment.payload ≠ [] ∧ segment.flags.ack = true ∧
      segment.flags.syn = false ∧ segment.flags.rst = false ∧
      tcpSegmentAcknowledgesKnownServerSequence segment r = true := by
  simp [acceptsClientData, and_assoc]

theorem isPureAck_iff : isPureAck segment = true ↔
    segment.flags.ack = true ∧ segment.flags.syn = false ∧ segment.flags.rst = false ∧
      segment.flags.fin = false ∧ segment.payload = [] := by
  simp [isPureAck, and_assoc]

theorem isClientFin_iff : isClientFin segment = true ↔
    segment.flags.ack = true ∧ segment.flags.fin = true ∧ segment.flags.syn = false ∧
      segment.flags.rst = false := by
  simp [isClientFin, and_assoc]

theorem acceptsClientFin_iff : acceptsClientFin segment r = true ↔
    r.phase = .established ∧ segment.sequenceNumber = r.clientNextSequenceNumber ∧
      tcpSegmentAcknowledgesKnownServerSequence segment r = true := by
  simp [acceptsClientFin, and_assoc]

end

theorem next_of_plain {segment : TunTcpSegment} (hsyn : segment.flags.syn = false)
    (hfin : segment.flags.fin = false) : tcpSegmentNextSequenceNumber segment =
      segment.sequenceNumber + UInt32.ofNat segment.payload.length := by
  simp [tcpSegmentNextSequenceNumber, tcpSegmentSequenceLen, hsyn, hfin]

theorem next_of_fin {segment : TunTcpSegment} (hsyn : segment.flags.syn = false)
    (hfin : segment.flags.fin = true) : tcpSegmentNextSequenceNumber segment =
      segment.sequenceNumber + UInt32.ofNat segment.payload.length + 1 := by
  simp [tcpSegmentNextSequenceNumber, tcpSegmentSequenceLen, hsyn, hfin, UInt32.add_assoc]

section

variable {key : TunTcpSessionKey} {a : Arrival} {control c' : Control}
  {state state' : FlowState} {calls : List RelayEvent} {packets : List Bytes}

theorem readCall_key {r : TunTcpSessionRecord} {res : Except String TunTcpServerRead}
    {ev : RelayEvent} (h : ReadCall r res control ev) : ev.key = r.key := by
  cases h <;> rfl

theorem finCalls_key {r : TunTcpSessionRecord} {pkt : Bytes} {res : Except String Unit}
    (h : a.FinCalls r pkt calls res) : ∀ ev ∈ calls, ev.key = r.key := by
  cases h <;> simp [RelayEvent.key, Arrival.finFrame, TunTcpSessionRecord.finished]

theorem FlowStep.keyed (h : FlowStep key a control state calls packets c' state')
    (hkeyed : state.Keyed key) : (∀ ev ∈ calls, ev.key = key) ∧ state'.Keyed key := by
  cases h with
  | finTaken _ _ _ hcalls =>
    have hr := hkeyed _ rfl
    refine ⟨fun ev hev => (finCalls_key hcalls ev hev).trans hr, ?_⟩
    rintro r ⟨⟩
    simpa [TunTcpSessionRecord.finished] using hr
  | wrote _ hdata _ res =>
    have hr := hkeyed _ rfl
    refine ⟨?_, ?_⟩
    · simpa [RelayEvent.key, hdata.session, TunTcpSessionRecord.taken] using hr
    · rintro r ⟨⟩
      simpa [TunTcpSessionRecord.taken] using hr
  | readFailed _ _ hcall =>
    have hr := hkeyed _ rfl
    exact ⟨by simpa [readCall_key hcall] using hr, hkeyed⟩
  | readNothing _ hcall _ =>
    have hr := hkeyed _ rfl
    exact ⟨by simpa [readCall_key hcall] using hr, hkeyed⟩
  | oversized _ hcall _ =>
    have hr := hkeyed _ rfl
    exact ⟨by simpa [readCall_key hcall] using hr, hkeyed⟩
  | sent _ hcall _ _ =>
    have hr := hkeyed _ rfl
    refine ⟨by simpa [readCall_key hcall] using hr, ?_⟩
    rintro r ⟨⟩
    exact hr
  | closedByServer _ hcall _ res =>
    have hr := hkeyed _ rfl
    constructor
    · rw [forall_mem_cons, forall_mem_singleton]
      exact ⟨(readCall_key hcall).trans hr, hr⟩
    · rintro r ⟨⟩
  | reset hunk _ =>
    refine ⟨by simp, ?_⟩
    rintro r rfl
    cases hunk
  | _ =>
    simp_all [FlowState.Keyed, RelayEvent.key, TunTcpSessionRecord.touched,
      TunTcpSessionRecord.opened, TunTcpSessionRecord.acknowledged]

theorem FlowRun.keyed (h : FlowRun key a control state calls packets c' state')
    (hkeyed : state.Keyed key) : (∀ ev ∈ calls, ev.key = key) ∧ state'.Keyed key := by
  induction h with
  | refl => exact ⟨by simp, hkeyed⟩
  | step run step ih =>
    obtain ⟨hcalls, hmid⟩ := ih hkeyed
    obtain ⟨hcalls', hlast⟩ := step.keyed hmid
    refine ⟨fun ev hev => ?_, hlast⟩
    rcases mem_append.mp hev with hev | hev
    · exact hcalls ev hev
    · exact hcalls' ev hev

theorem FlowStep.synReceived {r' : TunTcpSessionRecord}
    (h : FlowStep key a control state calls packets c' (.active r'))
    (hph : r'.phase = .synReceived) : ∃ r, state = .active r ∧ r.phase = .synReceived ∧
      r.clientInitialSequenceNumber = r'.clientInitialSequenceNumber := by
  cases h with
  | reset hunk _ => cases hunk
  | opened => cases hph
  | finTaken => cases hph
  | _ =>
    refine ⟨_, rfl, ?_, ?_⟩ <;>
      simp_all [TunTcpSessionRecord.touched, TunTcpSessionRecord.acknowledged,
        TunTcpSessionRecord.taken, TunTcpSessionRecord.sent]

theorem FlowRun.synReceived (h : FlowRun key a control state calls packets c' state') :
    ∀ r', state' = .active r' → r'.phase = .synReceived → ∃ r, state = .active r ∧
      r.phase = .synReceived ∧ r.clientInitialSequenceNumber = r'.clientInitialSequenceNumber := by
  induction h with
  | refl => exact fun r' hr' hph => ⟨r', hr', hph, rfl⟩
  | step run step ih =>
    rintro r' rfl hph
    obtain ⟨r, hr, hph', hisn⟩ := step.synReceived hph
    obtain ⟨r₀, hr₀, hph₀, hisn₀⟩ := ih r hr hph'
    exact ⟨r₀, hr₀, hph₀, hisn₀.trans hisn⟩

theorem FlowStep.absent (h : FlowStep key a control .absent calls packets c' state') :
    state' = .absent := by
  cases h <;> rfl

theorem FlowRun.absent (h : FlowRun key a control state calls packets c' state') :
    state = .absent → state' = .absent := by
  induction h with
  | refl => exact id
  | step run step ih =>
    intro hst
    obtain rfl := ih hst
    exact step.absent

theorem FlowStep.control_ne_start (h : FlowStep key a control state calls packets c' state') :
    c' ≠ .start := by
  cases h with
  | opened _ res | wrote _ _ _ res | closedByServer _ _ _ res | removedByFin _ _ _ _ res
  | removedByRst _ _ res | @finTaken _ _ _ res => cases res <;> nofun
  | _ => nofun

theorem FlowRun.start (h : FlowRun key a control state calls packets .start state') :
    calls = [] ∧ packets = [] ∧ state' = state := by
  cases h with
  | refl => exact ⟨rfl, rfl, rfl⟩
  | step _ step => exact absurd rfl step.control_ne_start

theorem FlowRun.wellFormed_start (h : FlowRun key a control state calls packets c' state')
    (hwf : state.WellFormed key) (hstart : c' = .start) : state'.WellFormed key := by
  subst hstart
  obtain ⟨_, _, rfl⟩ := h.start
  exact hwf

theorem FlowStep.running (h : FlowStep key a control state calls packets c' state')
    (hctl : control ≠ .start) : ∃ r, state = .active r ∧
      ((∃ r', state' = .active r' ∧ r'.phase = r.phase) ∨
        ∃ c, state' = .serverClosed c ∧ c.response.session = r) := by
  cases h with
  | touched => exact ⟨_, rfl, .inl ⟨_, rfl, rfl⟩⟩
  | wrote | ackedData | clientAcked => exact ⟨_, rfl, .inl ⟨_, rfl, clear_phase ..⟩⟩
  | readFailed | readNothing | oversized | sent => exact ⟨_, rfl, .inl ⟨_, rfl, rfl⟩⟩
  | closedByServer => exact ⟨_, rfl, .inr ⟨_, rfl, rfl⟩⟩
  | _ => exact absurd rfl hctl

theorem FlowStep.clientInitial {r' : TunTcpSessionRecord}
    (h : FlowStep key a control state calls packets c' (.active r')) : ∃ r, state = .active r ∧
      r'.clientInitialSequenceNumber = r.clientInitialSequenceNumber := by
  cases h with
  | reset hunk => cases hunk
  | wrote | ackedData | polled | clientAcked | finAgain | finTaken =>
    exact ⟨_, rfl, clear_clientInitial ..⟩
  | _ => exact ⟨_, rfl, rfl⟩

theorem FlowRun.clientInitial (h : FlowRun key a control state calls packets c' state') :
    ∀ r', state' = .active r' → ∃ r, state = .active r ∧
      r'.clientInitialSequenceNumber = r.clientInitialSequenceNumber := by
  induction h with
  | refl => exact fun r' hr' => ⟨r', hr', rfl⟩
  | step run step ih =>
    rintro r' rfl
    obtain ⟨r₁, hr₁, heq₁⟩ := step.clientInitial
    obtain ⟨r, hr, heq⟩ := ih r₁ hr₁
    exact ⟨r, hr, heq₁.trans heq⟩

theorem FlowStep.calls_of_left (step : FlowStep key a control state calls packets c' state')
    (hst : state.session = none) : calls = [] := by
  cases step <;> first | rfl | cases hst

end

/-- The number the next client byte of a flow is expected to have. -/
inductive Expects : FlowState → UInt32 → Prop where
  | active (r : TunTcpSessionRecord) : Expects (.active r) r.clientNextSequenceNumber
  | serverClosed (c : TunTcpServerClosedSession) :
      Expects (.serverClosed c) c.response.acknowledgmentNumber
  | postClosed (p : TunTcpPostCloseSession) : Expects (.postClosed p) p.clientNextSequenceNumber

inductive Answer (a : Arrival) (state state' : FlowState) (packet : Bytes) : Prop where
  | reset (h : buildTunTcpResetResponsePacket a.segment = .ok packet)
  | synAck {r : TunTcpSessionRecord} (hst : state = .active r)
      (hsyn : isInitialTcpSynSegment a.segment = true) (hfin : a.segment.flags.fin = false)
      (hseq : a.segment.sequenceNumber = r.clientInitialSequenceNumber)
      (h : buildTunTcpSynAckResponsePacket a.segment r.serverInitialSequenceNumber r.windowSize =
        .ok packet)
  | ack {flow : TunPacketFlow} {sequenceNumber acknowledgmentNumber : UInt32} {windowSize : UInt16}
      (hexpects : Expects state' acknowledgmentNumber)
      (h : buildTunTcpAckResponsePacket flow sequenceNumber acknowledgmentNumber windowSize = .ok packet)
  | again {r : TunTcpSessionRecord} {unacked : TunTcpServerUnackedPayload} (hst : state = .active r)
      (hunack : r.serverUnackedPayload = some unacked)
      (hexpects : Expects state' r.clientNextSequenceNumber)
      (h : buildTunTcpPayloadResponsePacket r.flow unacked.sequenceNumber
        r.clientNextSequenceNumber r.windowSize unacked.payload = .ok packet)
  | data {r : TunTcpSessionRecord} {payload : Bytes} (hst : state = .active r)
      (hst' : state' = .active (r.sent payload a.now)) (hpay : payload ≠ [])
      (h : buildTunTcpPayloadResponsePacket r.flow r.serverNextSequenceNumber
        r.clientNextSequenceNumber r.windowSize payload = .ok packet)
  | fin {c : TunTcpServerClosedSession} (hst' : state' = .serverClosed c)
      (h : buildTunTcpFinAckResponsePacket c.response.session.flow c.response.sequenceNumber
        c.response.acknowledgmentNumber c.response.session.windowSize = .ok packet)

theorem synAck_build {segment : TunTcpSegment} {isn : UInt32} {win : UInt16} {pkt : Bytes}
    (h : buildTunTcpSynAckResponsePacket segment isn win = .ok pkt) :
    isInitialTcpSynSegment segment = true ∧ buildTunTcpResponsePacket segment.flow
      isn (tcpSegmentNextSequenceNumber segment) (.fromBits 0x0012) win
      [] = .ok pkt := by
  unfold buildTunTcpSynAckResponsePacket at h
  split at h
  · cases h
  next hsyn => exact ⟨by simpa using hsyn, h⟩

def Built (packet : Bytes) : Prop :=
  ∃ flow sequenceNumber acknowledgmentNumber flags windowSize payload,
    buildTunTcpResponsePacket flow sequenceNumber acknowledgmentNumber flags windowSize payload =
      .ok packet

theorem Answer.built {a : Arrival} {state state' : FlowState} {pkt : Bytes}
    (h : Answer a state state' pkt) : Built pkt := by
  cases h with
  | synAck _ _ _ _ hbuild => exact ⟨_, _, _, _, _, _, (synAck_build hbuild).2⟩
  | reset hbuild | ack _ hbuild | again _ _ _ hbuild | data _ _ _ hbuild | fin _ hbuild =>
    exact ⟨_, _, _, _, _, _, hbuild⟩

theorem mem_emitAfter {res : Except String Unit} {pkt pkt' : Bytes}
    (h : pkt' ∈ emitAfter res [pkt]) : pkt' = pkt := by
  cases res with
  | ok _ => exact mem_singleton.mp h
  | error _ => cases h

section

variable {key : TunTcpSessionKey} {a : Arrival} {control c' : Control}
  {state state' : FlowState} {calls : List RelayEvent} {packets : List Bytes}

theorem FlowStep.answers (h : FlowStep key a control state calls packets c' state')
    (hwf : control = .start → state.WellFormed key) :
    ∀ pkt ∈ packets, Answer a state state' pkt := by
  intro pkt hpkt
  cases h with
  | synAckAgain hsyn hfin _ hseq hbuild =>
    obtain rfl := mem_singleton.mp hpkt
    exact .synAck rfl hsyn hfin hseq hbuild
  | wrote _ hdata =>
    obtain rfl := mem_emitAfter hpkt
    exact .ack (.active _) hdata.packet
  | ackedData _ _ _ hbuild =>
    obtain rfl := mem_singleton.mp hpkt
    exact .ack (.active _) hbuild
  | retransmitted _ hunack _ _ hbuild =>
    obtain rfl := mem_singleton.mp hpkt
    exact .again rfl hunack (.active (TunTcpSessionRecord.touched ..)) hbuild
  | @finAgain r _ _ _ _ _ hbuild =>
    obtain rfl := mem_singleton.mp hpkt
    refine .ack ?_ hbuild
    have hexpects := Expects.active (r.acknowledged a.segment a.now)
    simpa [TunTcpSessionRecord.acknowledged] using hexpects
  | finTaken _ _ hbuild =>
    obtain rfl := mem_emitAfter hpkt
    exact .ack (.active (TunTcpSessionRecord.finished ..)) hbuild
  | sent _ _ hpay hbuild =>
    obtain rfl := mem_singleton.mp hpkt
    exact .data rfl rfl hpay hbuild
  | closedByServer _ _ hbuild =>
    obtain rfl := mem_emitAfter hpkt
    exact .fin rfl hbuild
  | removedByFin _ _ _ hbuild =>
    obtain rfl := mem_emitAfter hpkt
    exact .ack (.postClosed _) hbuild
  | closeAckedWithFin _ _ _ hbuild =>
    obtain rfl := mem_singleton.mp hpkt
    exact .ack (.postClosed _) hbuild
  | @closeRetransmitted c =>
    obtain rfl := mem_singleton.mp hpkt
    have hc : c.WellFormed key := hwf rfl
    exact .fin rfl hc.packet
  | @postFinAgain p pkt' hrec =>
    obtain rfl := mem_singleton.mp hpkt
    have hp : p.WellFormed key := hwf rfl
    exact .ack (.postClosed { p with lastActivityAt := a.now }) (hp.packet _ hrec)
  | postFin _ _ _ _ hbuild =>
    obtain rfl := mem_singleton.mp hpkt
    exact .ack (.postClosed _) hbuild
  | reset _ hbuild =>
    obtain rfl := mem_singleton.mp hpkt
    exact .reset hbuild
  | _ => cases hpkt

theorem FlowRun.built (run : FlowRun key a control state calls packets c' state')
    (hwf : state.WellFormed key) : ∀ pkt ∈ packets, Built pkt := by
  induction run with
  | refl => exact fun _ hmem => nomatch hmem
  | step run step ih =>
    intro pkt hmem
    rcases mem_append.mp hmem with hmem | hmem
    · exact ih hwf pkt hmem
    · exact (step.answers (run.wellFormed_start hwf) pkt hmem).built

end

end KeliNative.Tun
