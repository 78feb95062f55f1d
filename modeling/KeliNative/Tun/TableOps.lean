import KeliNative.Tun.FlowMachine

/-!
# What the table operations do to their flow

Each operation changes only the flow it is called for, and keeps that well formed.
-/

namespace KeliNative.Tun
open TunTcpSessionTable TunTcpSessionRecord

section

variable (segment : TunTcpSegment) (now : Instant) (payload : Bytes) (r : TunTcpSessionRecord)

@[simp] theorem clear_key :
    (clearServerUnackedPayloadIfLatestAcknowledged segment r).key = r.key := by
  unfold clearServerUnackedPayloadIfLatestAcknowledged; split <;> rfl

@[simp] theorem clear_flow :
    (clearServerUnackedPayloadIfLatestAcknowledged segment r).flow = r.flow := by
  unfold clearServerUnackedPayloadIfLatestAcknowledged; split <;> rfl

@[simp] theorem clear_clientInitial :
    (clearServerUnackedPayloadIfLatestAcknowledged segment r).clientInitialSequenceNumber =
      r.clientInitialSequenceNumber := by
  unfold clearServerUnackedPayloadIfLatestAcknowledged; split <;> rfl

@[simp] theorem clear_clientNext :
    (clearServerUnackedPayloadIfLatestAcknowledged segment r).clientNextSequenceNumber =
      r.clientNextSequenceNumber := by
  unfold clearServerUnackedPayloadIfLatestAcknowledged; split <;> rfl

@[simp] theorem clear_serverInitial :
    (clearServerUnackedPayloadIfLatestAcknowledged segment r).serverInitialSequenceNumber =
      r.serverInitialSequenceNumber := by
  unfold clearServerUnackedPayloadIfLatestAcknowledged; split <;> rfl

@[simp] theorem clear_serverNext :
    (clearServerUnackedPayloadIfLatestAcknowledged segment r).serverNextSequenceNumber =
      r.serverNextSequenceNumber := by
  unfold clearServerUnackedPayloadIfLatestAcknowledged; split <;> rfl

@[simp] theorem clear_windowSize :
    (clearServerUnackedPayloadIfLatestAcknowledged segment r).windowSize = r.windowSize := by
  unfold clearServerUnackedPayloadIfLatestAcknowledged; split <;> rfl

@[simp] theorem clear_phase :
    (clearServerUnackedPayloadIfLatestAcknowledged segment r).phase = r.phase := by
  unfold clearServerUnackedPayloadIfLatestAcknowledged; split <;> rfl

theorem clear_unacked :
    (clearServerUnackedPayloadIfLatestAcknowledged segment r).serverUnackedPayload =
      if segment.acknowledgmentNumber = r.serverNextSequenceNumber then none
      else r.serverUnackedPayload := by
  unfold clearServerUnackedPayloadIfLatestAcknowledged; split <;> rfl

end

namespace TunTcpSessionRecord.WellFormed

variable {key : TunTcpSessionKey} {r : TunTcpSessionRecord}

section

variable (h : r.WellFormed key)

include h

theorem clear (segment : TunTcpSegment) :
    (clearServerUnackedPayloadIfLatestAcknowledged segment r).WellFormed key := by
  refine ⟨?_, ?_, ?_, ?_⟩
  · rw [clear_key]; exact h.key_eq
  · rw [clear_flow]; exact h.fromFlow
  · rw [clear_flow]; exact h.buildable
  · intro u hu
    rw [clear_unacked] at hu
    split at hu
    · cases hu
    · rw [clear_flow, clear_serverNext]
      exact h.unacked u hu

theorem touched (now : Instant) : (r.touched now).WellFormed key :=
  ⟨h.key_eq, h.fromFlow, h.buildable, h.unacked⟩

theorem opened (now : Instant) : (r.opened now).WellFormed key :=
  ⟨h.key_eq, h.fromFlow, h.buildable, h.unacked⟩

theorem acknowledged (segment : TunTcpSegment) (now : Instant) :
    (r.acknowledged segment now).WellFormed key :=
  have hc := h.clear segment
  ⟨hc.key_eq, hc.fromFlow, hc.buildable, hc.unacked⟩

theorem taken (segment : TunTcpSegment) (now : Instant) : (r.taken segment now).WellFormed key :=
  have hc := h.clear segment
  ⟨hc.key_eq, hc.fromFlow, hc.buildable, hc.unacked⟩

theorem finished (segment : TunTcpSegment) (now : Instant) :
    (r.finished segment now).WellFormed key :=
  have hc := h.clear segment
  ⟨hc.key_eq, hc.fromFlow, hc.buildable, hc.unacked⟩

theorem sent {payload : Bytes} (now : Instant) (hpay : payload ≠ [])
    (hfits : payload.length ≤ maxTcpPayloadLen r.flow.ipVersion) :
    (r.sent payload now).WellFormed key := by
  refine ⟨h.key_eq, h.fromFlow, h.buildable, ?_⟩
  intro u hu
  cases hu
  exact ⟨hpay, hfits, rfl⟩

theorem buildSessionAck_ok : ∃ pkt, buildSessionAck r = .ok pkt :=
  h.build_ok r.serverNextSequenceNumber r.clientNextSequenceNumber (.fromBits 0x0010) r.windowSize

end

end TunTcpSessionRecord.WellFormed

variable {α : Type}

/-- What an operation's result says about its flow: unchanged on `None` and on an
error (up to the activity time), related by `rel` on `Some`. -/
inductive Outcome (now : Instant) (rel : FlowState → α → FlowState → Prop) (state : FlowState) :
    Except TunPacketError (Option α) → FlowState → Prop where
  | none : Outcome now rel state (.ok none) state
  | some {a : α} {state' : FlowState} (h : rel state a state') : Outcome now rel state (.ok (some a)) state'
  | refused (error : TunPacketError) : Outcome now rel state (.error error) state
  | touched {r : TunTcpSessionRecord} (h : state = .active r) (error : TunPacketError) :
      Outcome now rel state (.error error) (.active (r.touched now))

def Localized (key : TunTcpSessionKey) (now : Instant) (operation : TableProgram (Option α))
    (rel : FlowState → α → FlowState → Prop) : Prop :=
  ∀ table state, table.Inv → table.At key state →
    Program.Ensures operation table fun result table' =>
      ∃ state', table.Updated table' key state' ∧ state'.WellFormed key ∧
        Outcome now rel state result state'

variable {key : TunTcpSessionKey} {now : Instant} {flow : TunPacketFlow}
  {rel : FlowState → α → FlowState → Prop}

theorem localized_same {table : TunTcpSessionTable} {state : FlowState} (hinv : table.Inv)
    (hat : table.At key state) :
    ∃ st', table.Updated table key st' ∧ st'.WellFormed key ∧
      Outcome now rel state (.ok none) st' :=
  ⟨state, .refl hinv hat, hinv.wellFormed hat, .none⟩

theorem localized_none (key : TunTcpSessionKey) (now : Instant)
    (rel : FlowState → α → FlowState → Prop) : Localized key now (Program.pure none) rel :=
  fun _ _ hinv hat => localized_same hinv hat

section

variable (hkey : TunTcpSessionKey.fromFlow flow = .ok key)

include hkey

theorem withSession_quiet {table : TunTcpSessionTable} {r : TunTcpSessionRecord}
    {body : Program TunTcpSessionRecord TunPacketError (Option α)}
    (hr : table.sessions.lookup key = some r) (hbody : body r = (.ok none, r)) :
    withSession flow body table = (.ok none, table) := by
  simp only [withSession, hkey, hr, hbody, KeyMap.replace_self hr]

theorem localized_withSession {body : Program TunTcpSessionRecord TunPacketError (Option α)}
    (hbody : ∀ r, r.WellFormed key → (body r).2.WellFormed key ∧
      Outcome now rel (.active r) (body r).1 (.active (body r).2)) :
    Localized key now (withSession flow body) rel := by
  intro table state hinv hat
  unfold Program.Ensures withSession
  simp only [hkey]
  cases hlook : table.sessions.lookup key with
  | none => exact localized_same hinv hat
  | some r =>
    obtain rfl : state = .active r :=
      FlowState.session_eq_some.mp (hat.session.symm.trans hlook)
    obtain ⟨hwf, hout⟩ := hbody r (hinv.wellFormed hat)
    exact ⟨.active (body r).2, updated_replaceSession hinv hat _, hwf, hout⟩

theorem localized_withServerClosed
    {body : Program TunTcpServerClosedSession TunPacketError (Option α)}
    (hbody : ∀ c, c.WellFormed key → (body c).2.WellFormed key ∧
      Outcome now rel (.serverClosed c) (body c).1 (.serverClosed (body c).2)) :
    Localized key now (withServerClosed flow body) rel := by
  intro table state hinv hat
  unfold Program.Ensures withServerClosed
  simp only [hkey]
  cases hlook : table.serverClosedSessions.lookup key with
  | none => exact localized_same hinv hat
  | some c =>
    obtain rfl : state = .serverClosed c :=
      FlowState.closed_eq_some.mp (hat.closed.symm.trans hlook)
    obtain ⟨hwf, hout⟩ := hbody c (hinv.wellFormed hat)
    exact ⟨.serverClosed (body c).2, updated_replaceServerClosed hinv hat _, hwf, hout⟩

theorem localized_withPostClosed {body : Program TunTcpPostCloseSession TunPacketError (Option α)}
    (hbody : ∀ p, p.WellFormed key → (body p).2.WellFormed key ∧
      Outcome now rel (.postClosed p) (body p).1 (.postClosed (body p).2)) :
    Localized key now (withPostClosed flow body) rel := by
  intro table state hinv hat
  unfold Program.Ensures withPostClosed
  simp only [hkey]
  cases hlook : table.postClosedSessions.lookup key with
  | none => exact localized_same hinv hat
  | some p =>
    obtain rfl : state = .postClosed p :=
      FlowState.post_eq_some.mp (hat.post.symm.trans hlook)
    obtain ⟨hwf, hout⟩ := hbody p (hinv.wellFormed hat)
    exact ⟨.postClosed (body p).2, updated_replacePostClosed hinv hat _, hwf, hout⟩

end

theorem resendUnacked_ok {r : TunTcpSessionRecord} {unacked : TunTcpServerUnackedPayload}
    (hwf : r.WellFormed key) (hunack : r.serverUnackedPayload = some unacked) (now : Instant) :
    ∃ pkt, buildTunTcpPayloadResponsePacket r.flow unacked.sequenceNumber
        r.clientNextSequenceNumber r.windowSize unacked.payload = .ok pkt ∧
      resendUnacked unacked now r = (.ok (some ⟨r.touched now, unacked.sequenceNumber,
        r.clientNextSequenceNumber, unacked.payload, pkt⟩), r.touched now) := by
  obtain ⟨pkt, hpkt⟩ := (build_isOk_iff r.flow unacked.sequenceNumber
    r.clientNextSequenceNumber (.fromBits 0x0018) r.windowSize unacked.payload).mpr
    ⟨hwf.buildable, (hwf.unacked unacked hunack).2.1⟩
  have hbuild : buildTunTcpPayloadResponsePacket r.flow unacked.sequenceNumber
      r.clientNextSequenceNumber r.windowSize unacked.payload = .ok pkt := hpkt
  refine ⟨pkt, hbuild, ?_⟩
  simp only [resendUnacked, hbuild, touched]

theorem acceptFin_spec {β : Type} (a : Arrival) {r : TunTcpSessionRecord} (hwf : r.WellFormed key)
    (frame : TunTcpSessionRecord → UInt32 → UInt32 → Bytes → β) :
    ∃ pkt, buildTunTcpAckResponsePacket r.flow r.serverNextSequenceNumber
        (tcpSegmentNextSequenceNumber a.segment) r.windowSize = .ok pkt ∧
      acceptFin a.segment a.now frame r = (.ok (some (frame (r.finished a.segment a.now)
        r.serverNextSequenceNumber (tcpSegmentNextSequenceNumber a.segment) pkt)),
        r.finished a.segment a.now) := by
  obtain ⟨pkt, hpkt⟩ := hwf.build_ok r.serverNextSequenceNumber
    (tcpSegmentNextSequenceNumber a.segment) (.fromBits 0x0010) r.windowSize
  have hbuild : buildTunTcpAckResponsePacket r.flow r.serverNextSequenceNumber
      (tcpSegmentNextSequenceNumber a.segment) r.windowSize = .ok pkt := hpkt
  refine ⟨pkt, hbuild, ?_⟩
  simp only [acceptFin, clear_flow, clear_serverNext, clear_windowSize, hbuild,
    finished]

section

variable {key : TunTcpSessionKey} (a : Arrival)
  (hkey : TunTcpSessionKey.fromFlow a.segment.flow = .ok key)

include hkey

theorem acknowledgeRetransmittedSyn_localized :
    Localized key a.now (acknowledgeRetransmittedSyn a.segment a.now)
      (fun state resp st' => a.segment.flags.fin = false →
        FlowStep key a .start state [] [resp.packet] .done st') := by
  unfold acknowledgeRetransmittedSyn
  split
  · exact localized_none key a.now _
  next hsyn =>
    refine localized_withSession hkey ?_
    intro r hwf
    split
    next hguard =>
      have hsyn' : isInitialTcpSynSegment a.segment = true := by simpa using hsyn
      cases hbuild : buildTunTcpSynAckResponsePacket a.segment r.serverInitialSequenceNumber
          r.windowSize with
      | error error =>
        simp only [answer, hbuild]
        exact ⟨hwf.touched a.now, .touched rfl error⟩
      | ok pkt =>
        simp only [answer, hbuild]
        exact ⟨hwf.touched a.now, .some fun hfin => .synAckAgain hsyn' hfin hguard.1 hguard.2 hbuild⟩
    · exact ⟨hwf, .none⟩

theorem applyAck_localized :
    Localized key a.now (applyAck a.segment a.now) (fun state sess st' =>
      ∃ r, state = .active r ∧ a.Opens r ∧ sess = r.opened a.now ∧
        st' = .active (r.opened a.now)) := by
  refine localized_withSession hkey ?_
  intro r hwf
  split
  next hguard =>
    obtain ⟨hph, hack, hsyn, hrst, hseq, hackn⟩ := hguard
    refine ⟨hwf.opened a.now, .some ⟨r, rfl, ?_, rfl, rfl⟩⟩
    exact ⟨hph, hack, by simpa using hsyn, by simpa using hrst, hseq, hackn⟩
  · exact ⟨hwf, .none⟩

theorem acceptClientPayload_localized :
    Localized key a.now (acceptClientPayload a.segment a.now) (fun state frame st' =>
      ∃ r, state = .active r ∧ a.TakesData r frame ∧ st' = .active (r.taken a.segment a.now)) := by
  refine localized_withSession hkey ?_
  intro r hwf
  split
  next hguard =>
    have hwf' := hwf.taken a.segment a.now
    obtain ⟨pkt, hbuild⟩ := hwf'.buildSessionAck_ok
    simp only [taken] at hbuild
    simp only [answer, hbuild]
    exact ⟨hwf', .some ⟨r, rfl, ⟨hguard.1, rfl, .inOrder hguard.2, hbuild⟩, rfl⟩⟩
  · exact ⟨hwf, .none⟩

theorem acceptOverlappingClientPayload_localized :
    Localized key a.now (acceptOverlappingClientPayload a.segment a.now) (fun state frame st' =>
      ∃ r, state = .active r ∧ a.TakesData r frame ∧ st' = .active (r.taken a.segment a.now)) := by
  refine localized_withSession hkey ?_
  intro r hwf
  simp only
  split
  next hguard =>
    obtain ⟨hacpt, hfin, hbef, hafter⟩ := hguard
    split
    next hfits =>
      have hwf' := hwf.taken a.segment a.now
      obtain ⟨pkt, hbuild⟩ := hwf'.buildSessionAck_ok
      simp only [taken] at hbuild
      simp only [answer, hbuild]
      refine ⟨hwf', .some ⟨r, rfl, ⟨hacpt, rfl, ?_, hbuild⟩, rfl⟩⟩
      exact .overlap (by simpa using hfin) hbef hafter hfits
    · exact ⟨hwf, .none⟩
  · exact ⟨hwf, .none⟩

theorem acknowledgeDuplicateClientPayload_localized :
    Localized key a.now (acknowledgeDuplicateClientPayload a.segment a.now) (fun state ack st' =>
      ∀ ctl, ctl = .start ∨ ctl = .opened →
        FlowStep key a ctl state [] [ack.ackPacket] .done st') := by
  refine localized_withSession hkey ?_
  intro r hwf
  split
  next hguard =>
    have hwf' := hwf.acknowledged a.segment a.now
    obtain ⟨pkt, hbuild⟩ := hwf'.buildSessionAck_ok
    simp only [acknowledged] at hbuild
    simp only [answer, hbuild]
    refine ⟨hwf', .some fun ctl hctl => ?_⟩
    exact .ackedData hctl hguard.1 (by simpa using hguard.2.1) hbuild
  · exact ⟨hwf, .none⟩

theorem acknowledgeOutOfOrderClientPayload_localized :
    Localized key a.now (acknowledgeOutOfOrderClientPayload a.segment a.now) (fun state ack st' =>
      ∀ ctl, ctl = .start ∨ ctl = .opened →
        FlowStep key a ctl state [] [ack.ackPacket] .done st') := by
  refine localized_withSession hkey ?_
  intro r hwf
  split
  next hguard =>
    have hwf' := hwf.acknowledged a.segment a.now
    obtain ⟨pkt, hbuild⟩ := hwf'.buildSessionAck_ok
    simp only [acknowledged] at hbuild
    simp only [answer, hbuild]
    refine ⟨hwf', .some fun ctl hctl => ?_⟩
    exact .ackedData hctl hguard.1 (by simpa using hguard.2.1) hbuild
  · exact ⟨hwf, .none⟩

theorem retransmitServerPayload_localized :
    Localized key a.now (retransmitServerPayload a.segment a.now) (fun state resp st' =>
      FlowStep key a .start state [] [resp.packet] .done st') := by
  unfold retransmitServerPayload
  split
  · exact localized_none key a.now _
  next hack =>
    refine localized_withSession hkey ?_
    intro r hwf
    split
    · exact ⟨hwf, .none⟩
    next unacked hunack =>
      split
      next hguard =>
        obtain ⟨pkt, hpkt, hresend⟩ := resendUnacked_ok hwf hunack a.now
        rw [hresend]
        refine ⟨hwf.touched a.now, .some ?_⟩
        exact .retransmitted hguard.1 hunack (.inl ⟨by simpa using hack, hguard.2.1⟩) hguard.2.2
          hpkt
      · exact ⟨hwf, .none⟩

theorem retransmitServerPayloadForDuplicateClientFin_localized :
    Localized key a.now (retransmitServerPayloadForDuplicateClientFin a.segment a.now)
      (fun state resp st' => FlowStep key a .start state [] [resp.packet] .done st') := by
  unfold retransmitServerPayloadForDuplicateClientFin
  split
  · exact localized_none key a.now _
  next hfin =>
    refine localized_withSession hkey ?_
    intro r hwf
    split
    · exact ⟨hwf, .none⟩
    next unacked hunack =>
      split
      next hguard =>
        obtain ⟨pkt, hpkt, hresend⟩ := resendUnacked_ok hwf hunack a.now
        rw [hresend]
        refine ⟨hwf.touched a.now, .some ?_⟩
        exact .retransmitted (by rw [hguard.1]; rfl) hunack
          (.inr ⟨by simpa using hfin, hguard.1, hguard.2.1⟩) hguard.2.2 hpkt
      · exact ⟨hwf, .none⟩

/-- An accepted `FIN`, whatever frame is made of its answer. -/
def Arrival.Finishes {β : Type} (a : Arrival)
    (frame : TunTcpSessionRecord → UInt32 → UInt32 → Bytes → β)
    (state : FlowState) (found : β) (state' : FlowState) : Prop :=
  ∃ r packet, state = .active r ∧ isClientFin a.segment = true ∧
    acceptsClientFin a.segment r = true ∧
    buildTunTcpAckResponsePacket r.flow r.serverNextSequenceNumber
      (tcpSegmentNextSequenceNumber a.segment) r.windowSize = .ok packet ∧
    found = frame (r.finished a.segment a.now) r.serverNextSequenceNumber
      (tcpSegmentNextSequenceNumber a.segment) packet ∧
    state' = .active (r.finished a.segment a.now)

theorem acceptFin_localized {β : Type} (hfin : isClientFin a.segment = true)
    (frame : TunTcpSessionRecord → UInt32 → UInt32 → Bytes → β) :
    Localized key a.now (withSession a.segment.flow fun sess =>
      if acceptsClientFin a.segment sess then acceptFin a.segment a.now frame sess
      else (.ok none, sess)) (a.Finishes frame) := by
  refine localized_withSession hkey ?_
  intro r hwf
  split
  next hacpt =>
    obtain ⟨pkt, hpkt, hspec⟩ := acceptFin_spec a hwf frame
    rw [hspec]
    exact ⟨hwf.finished a.segment a.now, .some ⟨r, pkt, rfl, hfin, hacpt, hpkt, rfl, rfl⟩⟩
  · exact ⟨hwf, .none⟩

theorem acceptClientFinWithPayload_localized :
    Localized key a.now (acceptClientFinWithPayload a.segment a.now)
      (a.Finishes fun sess seq ack pkt =>
        (⟨sess, a.segment.sequenceNumber, ack, a.segment.payload, pkt⟩,
          ⟨sess, seq, ack, pkt⟩)) := by
  unfold acceptClientFinWithPayload
  split
  · exact localized_none key a.now _
  next hseg =>
    rw [not_or] at hseg
    exact acceptFin_localized a hkey (by simpa using hseg.1) _

theorem acknowledgeClientFin_localized :
    Localized key a.now (acknowledgeClientFin a.segment a.now) (a.Finishes .mk) := by
  unfold acknowledgeClientFin
  split
  · exact localized_none key a.now _
  next hseg =>
    rw [not_or] at hseg
    exact acceptFin_localized a hkey (by simpa using hseg.1) _

theorem acknowledgeDuplicateClientFin_localized :
    Localized key a.now (acknowledgeDuplicateClientFin a.segment a.now) (fun state resp st' =>
      ∃ r, FlowStep key a .start state [] [resp.packet] .reading st' ∧
        st' = .active r ∧ resp.session = r ∧
        tunTcpPhaseAcceptsServerResponse r.phase = true) := by
  unfold acknowledgeDuplicateClientFin
  split
  · exact localized_none key a.now _
  next hfin =>
    refine localized_withSession hkey ?_
    intro r hwf
    split
    next hguard =>
      obtain ⟨pkt, hbuild⟩ := hwf.buildSessionAck_ok
      simp only [hbuild]
      refine ⟨hwf.acknowledged a.segment a.now, .some ⟨_, ?_, rfl, rfl, ?_⟩⟩
      · exact .finAgain (by simpa using hfin) hguard.1 hguard.2.1 hguard.2.2 hbuild
      · simp only [clear_phase, hguard.1, tunTcpPhaseAcceptsServerResponse]
    · exact ⟨hwf, .none⟩

theorem serverPayloadPollSession_localized :
    Localized key a.now (serverPayloadPollSession a.segment a.now) (fun state sess st' =>
      FlowStep key a .start state [] [] .polling st' ∧ st' = .active sess ∧
        isPureAck a.segment = true ∧ tunTcpPhaseAcceptsServerResponse sess.phase = true ∧
        a.segment.sequenceNumber = sess.clientNextSequenceNumber ∧
        a.segment.acknowledgmentNumber = sess.serverNextSequenceNumber) := by
  unfold serverPayloadPollSession
  split
  · exact localized_none key a.now _
  next hack =>
    have hack' : isPureAck a.segment = true := by simpa using hack
    refine localized_withSession hkey ?_
    intro r hwf
    split
    next hguard =>
      refine ⟨hwf.acknowledged a.segment a.now, .some ⟨?_, rfl, hack', ?_⟩⟩
      · exact .polled hack' hguard.1 hguard.2.1 hguard.2.2
      · simpa only [clear_phase, clear_clientNext, clear_serverNext] using hguard
    · exact ⟨hwf, .none⟩

theorem acknowledgeClientAck_localized :
    Localized key a.now (acknowledgeClientAck a.segment a.now) (fun state _ st' =>
      ∀ ctl, ctl = .start ∨ ctl = .polled →
        FlowStep key a ctl state [] [] .done st') := by
  unfold acknowledgeClientAck
  split
  · exact localized_none key a.now _
  next hack =>
    refine localized_withSession hkey ?_
    intro r hwf
    split
    next hguard =>
      refine ⟨hwf.acknowledged a.segment a.now, .some fun ctl hctl => ?_⟩
      exact .clientAcked hctl (by simpa using hack) hguard.1 hguard.2.1 hguard.2.2
    · exact ⟨hwf, .none⟩

end

end KeliNative.Tun
