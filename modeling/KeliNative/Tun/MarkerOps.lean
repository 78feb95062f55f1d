import KeliNative.Tun.TableOps

/-!
# What the close, open and server operations do to their flow

The operations that move a flow from one map to another.
-/

namespace KeliNative.Tun
open TunTcpSessionTable FlowState

section

variable {key : TunTcpSessionKey} (a : Arrival)
  (hkey : TunTcpSessionKey.fromFlow a.segment.flow = .ok key)

include hkey

theorem retransmitServerClose_localized :
    Localized key a.now (retransmitServerClose a.segment a.now) (fun state resp st' =>
      FlowStep key a .start state [] [resp.packet] .done st') := by
  unfold retransmitServerClose
  split
  · exact localized_none key a.now _
  · refine localized_withServerClosed hkey ?_
    intro c hwf
    split
    · exact ⟨⟨hwf.session, hwf.phase, hwf.sequence, hwf.acknowledgment, hwf.packet⟩,
        .some .closeRetransmitted⟩
    · exact ⟨hwf, .none⟩

theorem retransmitServerCloseForDuplicateClientFin_localized :
    Localized key a.now (retransmitServerCloseForDuplicateClientFin a.segment a.now)
      (fun state resp st' => FlowStep key a .start state [] [resp.packet] .done st') := by
  unfold retransmitServerCloseForDuplicateClientFin
  split
  · exact localized_none key a.now _
  · refine localized_withServerClosed hkey ?_
    intro c hwf
    split
    · exact ⟨⟨hwf.session, hwf.phase, hwf.sequence, hwf.acknowledgment, hwf.packet⟩,
        .some .closeRetransmitted⟩
    · exact ⟨hwf, .none⟩

theorem acknowledgePostCloseAck_localized :
    Localized key a.now (acknowledgePostCloseAck a.segment a.now) (fun state _ st' =>
      FlowStep key a .start state [] [] .done st') := by
  unfold acknowledgePostCloseAck
  split
  · exact localized_none key a.now _
  · refine localized_withPostClosed hkey ?_
    intro p hwf
    split
    · exact ⟨⟨hwf.session, hwf.recorded, hwf.packet⟩, .some .postAcked⟩
    · exact ⟨hwf, .none⟩

theorem acknowledgePostCloseClientFin_localized :
    Localized key a.now (acknowledgePostCloseClientFin a.segment a.now) (fun state resp st' =>
      FlowStep key a .start state [] [resp.packet] .done st') := by
  unfold acknowledgePostCloseClientFin
  split
  · exact localized_none key a.now _
  next hfin =>
    refine localized_withPostClosed hkey ?_
    intro p hwf
    split
    · exact ⟨hwf, .none⟩
    next hackn =>
      split
      · split
        · split
          · exact ⟨hwf, .none⟩
          next pkt hpkt =>
            exact ⟨⟨hwf.session, hwf.recorded, hwf.packet⟩, .some (.postFinAgain hpkt)⟩
        · exact ⟨hwf, .none⟩
      next hfirst =>
        split
        next hseq =>
          obtain ⟨pkt, hpkt⟩ := hwf.session.build_ok p.serverNextSequenceNumber
            (tcpSegmentNextSequenceNumber a.segment) (.fromBits 0x0010) p.session.windowSize
          have hbuild : buildTunTcpAckResponsePacket p.session.flow p.serverNextSequenceNumber
              (tcpSegmentNextSequenceNumber a.segment) p.session.windowSize = .ok pkt := hpkt
          simp only [hbuild]
          refine ⟨⟨hwf.session, rfl, ?_⟩, .some ?_⟩
          · intro pkt' hpkt'
            cases hpkt'
            exact hbuild
          · exact .postFin (by simpa using hfin) (by simpa using hackn) hfirst hseq
              hbuild
        · exact ⟨hwf, .none⟩

theorem acknowledgeServerClose_localized :
    Localized key a.now (acknowledgeServerClose a.segment a.now) (fun state _ st' =>
      FlowStep key a .start state [] [] .done st') := by
  intro table state hinv hat
  unfold Program.Ensures acknowledgeServerClose
  split
  · exact localized_same hinv hat
  · simp only [hkey]
    cases hlook : table.serverClosedSessions.lookup key with
    | none => exact localized_same hinv hat
    | some c =>
      obtain rfl : state = .serverClosed c :=
        closed_eq_some.mp (hat.closed.symm.trans hlook)
      have hwf : c.WellFormed key := hinv.wellFormed hat
      simp only
      split
      next hacks =>
        have herased := updated_eraseServerClosed hinv hat
        have hinserted := updated_insertPostClosed (herased.inv hinv trivial) herased.at_key
        exact ⟨_, herased.trans (hinserted _), ⟨hwf.session, rfl, fun _ h => by cases h⟩,
          .some (.closeAcked hacks)⟩
      · exact localized_same hinv hat

theorem acknowledgeServerCloseWithClientFin_localized :
    Localized key a.now (acknowledgeServerCloseWithClientFin a.segment a.now)
      (fun state resp st' => FlowStep key a .start state [] [resp.packet] .done st') := by
  intro table state hinv hat
  unfold Program.Ensures acknowledgeServerCloseWithClientFin
  split
  · exact localized_same hinv hat
  next hseg =>
    rw [not_or, not_not] at hseg
    simp only [hkey]
    cases hlook : table.serverClosedSessions.lookup key with
    | none => exact localized_same hinv hat
    | some c =>
      obtain rfl : state = .serverClosed c :=
        closed_eq_some.mp (hat.closed.symm.trans hlook)
      have hwf : c.WellFormed key := hinv.wellFormed hat
      simp only
      split
      next hacks =>
        obtain ⟨pkt, hpkt⟩ := hwf.session.build_ok (serverCloseNextSequenceNumber c.response)
          (tcpSegmentNextSequenceNumber a.segment) (.fromBits 0x0010) c.response.session.windowSize
        have hbuild : buildTunTcpAckResponsePacket c.response.session.flow
            (serverCloseNextSequenceNumber c.response) (tcpSegmentNextSequenceNumber a.segment)
            c.response.session.windowSize = .ok pkt := hpkt
        simp only [hbuild]
        have herased := updated_eraseServerClosed hinv hat
        have hinserted := updated_insertPostClosed (herased.inv hinv trivial) herased.at_key
        refine ⟨_, herased.trans (hinserted _), ⟨hwf.session, rfl, ?_⟩, .some ?_⟩
        · intro pkt' hpkt'
          cases hpkt'
          exact hbuild
        · exact .closeAckedWithFin (by simpa using hseg.1) hseg.2 hacks hbuild
      · exact localized_same hinv hat

theorem removeServerCloseOnRst_localized :
    Localized key a.now (removeServerCloseOnRst a.segment) (fun state _ st' =>
      FlowStep key a .start state [] [] .done st') := by
  intro table state hinv hat
  unfold Program.Ensures removeServerCloseOnRst
  split
  · exact localized_same hinv hat
  · simp only [hkey]
    cases hlook : table.serverClosedSessions.lookup key with
    | none => exact localized_same hinv hat
    | some c =>
      obtain rfl : state = .serverClosed c :=
        closed_eq_some.mp (hat.closed.symm.trans hlook)
      simp only
      split
      · exact ⟨.absent, updated_eraseServerClosed hinv hat, trivial, .some (.markerReset rfl)⟩
      · exact localized_same hinv hat

theorem removePostCloseOnRst_localized :
    Localized key a.now (removePostCloseOnRst a.segment) (fun state _ st' =>
      FlowStep key a .start state [] [] .done st') := by
  intro table state hinv hat
  unfold Program.Ensures removePostCloseOnRst
  split
  · exact localized_same hinv hat
  · simp only [hkey]
    cases hlook : table.postClosedSessions.lookup key with
    | none => exact localized_same hinv hat
    | some p =>
      obtain rfl : state = .postClosed p :=
        post_eq_some.mp (hat.post.symm.trans hlook)
      simp only
      split
      · exact ⟨.absent, updated_erasePostClosed hinv hat, trivial, .some (.markerReset rfl)⟩
      · exact localized_same hinv hat

theorem removeOnClose_localized :
    Localized key a.now (removeOnClose a.segment a.now) (fun state found st' =>
      ∃ r, state = .active r ∧ tcpCloseSegmentMatchesSession a.segment r = true ∧ found.1 = r ∧
        ((a.segment.flags.rst = true ∧ found.2 = none ∧ st' = .absent) ∨
        ∃ pkt, a.segment.flags.fin = true ∧ a.segment.flags.rst = false ∧
          buildTunTcpAckResponsePacket r.flow r.serverNextSequenceNumber
            (tcpSegmentNextSequenceNumber a.segment) r.windowSize = .ok pkt ∧
          found.2 = some ⟨r, r.serverNextSequenceNumber, tcpSegmentNextSequenceNumber a.segment,
            pkt⟩ ∧
          st' = .postClosed (a.finMarker r r.serverNextSequenceNumber pkt))) := by
  intro table state hinv hat
  unfold Program.Ensures removeOnClose
  split
  · exact localized_same hinv hat
  next hseg =>
    simp only [hkey]
    cases hlook : table.sessions.lookup key with
    | none => exact localized_same hinv hat
    | some r =>
      obtain rfl : state = .active r :=
        session_eq_some.mp (hat.session.symm.trans hlook)
      have hwf : r.WellFormed key := hinv.wellFormed hat
      have herased := updated_eraseSession hinv hat
      simp only
      split
      · exact localized_same hinv hat
      next hmatch =>
        have hmatch' : tcpCloseSegmentMatchesSession a.segment r = true := by simpa using hmatch
        split
        next hfin =>
          obtain ⟨pkt, hpkt⟩ := hwf.build_ok r.serverNextSequenceNumber
            (tcpSegmentNextSequenceNumber a.segment) (.fromBits 0x0010) r.windowSize
          have hbuild : buildTunTcpAckResponsePacket r.flow r.serverNextSequenceNumber
              (tcpSegmentNextSequenceNumber a.segment) r.windowSize = .ok pkt := hpkt
          simp only [hbuild]
          have hinserted := updated_insertPostClosed (herased.inv hinv trivial) herased.at_key
          refine ⟨_, herased.trans (hinserted _), ⟨hwf, rfl, ?_⟩, .some ⟨r, rfl, hmatch', rfl, ?_⟩⟩
          · intro pkt' hpkt'
            cases hpkt'
            exact hbuild
          · exact .inr ⟨pkt, hfin.1, by simpa using hfin.2, hbuild, rfl, rfl⟩
        next hfin =>
          have hrst : a.segment.flags.rst = true := by
            cases hr : a.segment.flags.rst <;> cases hf : a.segment.flags.fin <;> simp_all
          exact ⟨.absent, herased, trivial, .some ⟨r, rfl, hmatch', rfl, .inl ⟨hrst, rfl, rfl⟩⟩⟩

theorem newSession_wellFormed {pkt : Bytes}
    (hpkt : buildTunTcpSynAckResponsePacket a.segment a.serverInitialSequenceNumber
      a.windowSize = .ok pkt) : (a.newSession key).WellFormed key := by
  unfold buildTunTcpSynAckResponsePacket at hpkt
  split at hpkt
  · cases hpkt
  · exact ⟨rfl, hkey, ((build_isOk_iff ..).mp ⟨pkt, hpkt⟩).1, fun _ h => by cases h⟩

theorem startFromSyn_spec {table : TunTcpSessionTable} (hinv : table.Inv) :
    Program.Ensures (startFromSyn a.segment a.serverInitialSequenceNumber a.windowSize a.now) table
      fun res table' => (∃ error, res = .error error ∧ table' = table) ∨
        ∃ pkt, isInitialTcpSynSegment a.segment = true ∧
          buildTunTcpSynAckResponsePacket a.segment a.serverInitialSequenceNumber a.windowSize =
            .ok pkt ∧
          res = .ok ⟨a.newSession key, pkt⟩ ∧
          table.Updated table' key (.active (a.newSession key)) := by
  unfold Program.Ensures startFromSyn
  split
  · exact .inl ⟨_, rfl, rfl⟩
  next hsyn =>
    simp only [hkey]
    split
    · exact .inl ⟨_, rfl, rfl⟩
    next hlim =>
      cases hbuild : buildTunTcpSynAckResponsePacket a.segment a.serverInitialSequenceNumber
          a.windowSize with
      | error error => exact .inl ⟨error, rfl, rfl⟩
      | ok pkt =>
        exact .inr ⟨pkt, by simpa using hsyn, rfl, rfl, updated_startSession hinv _ hlim⟩

end

section

variable {key : TunTcpSessionKey} {table : TunTcpSessionTable} {r : TunTcpSessionRecord}

theorem sendServerPayload_spec (hinv : table.Inv) (hat : table.At key (.active r))
    {flow : TunPacketFlow} (hkey : TunTcpSessionKey.fromFlow flow = .ok key)
    (hph : tunTcpPhaseAcceptsServerResponse r.phase = true) (data : Bytes) (now : Instant) :
    Program.Ensures (sendServerPayload flow data now) table fun res table' =>
      (data = [] ∧ res = .ok none ∧ table' = table) ∨
      (maxTcpPayloadLen r.flow.ipVersion < data.length ∧ ∃ error, res = .error error ∧
        table' = table) ∨
      ∃ pkt, data ≠ [] ∧
        buildTunTcpPayloadResponsePacket r.flow r.serverNextSequenceNumber
          r.clientNextSequenceNumber r.windowSize data = .ok pkt ∧
        res = .ok (some ⟨r.sent data now, r.serverNextSequenceNumber,
          r.clientNextSequenceNumber, data, pkt⟩) ∧
        table.Updated table' key (.active (r.sent data now)) ∧
        (r.sent data now).WellFormed key := by
  have hwf : r.WellFormed key := hinv.wellFormed hat
  have hsess : table.sessions.lookup key = some r := hat.session
  have hsame : { table with sessions := table.sessions.replace key r } = table := by
    rw [KeyMap.replace_self hsess]
  simp only [Program.Ensures, sendServerPayload, withSession, hkey, hsess, hph, true_and]
  by_cases hpay : data = []
  · simp only [hpay, ne_eq, not_true_eq_false, ite_false, hsame]
    exact .inl ⟨trivial, trivial, trivial⟩
  · simp only [ne_eq, hpay, not_false_eq_true, ite_true]
    cases hbuild : buildTunTcpPayloadResponsePacket r.flow r.serverNextSequenceNumber
        r.clientNextSequenceNumber r.windowSize data with
    | error error =>
      simp only [hsame]
      refine .inr (.inl ⟨?_, error, rfl, trivial⟩)
      by_contra hfits
      obtain ⟨pkt, hpkt⟩ := (build_isOk_iff r.flow r.serverNextSequenceNumber
        r.clientNextSequenceNumber (.fromBits 0x0018) r.windowSize data).mpr
        ⟨hwf.buildable, Nat.le_of_not_lt hfits⟩
      have hcontra := hbuild.symm.trans hpkt
      cases hcontra
    | ok pkt =>
      have hfits := ((build_isOk_iff ..).mp ⟨pkt, hbuild⟩).2
      exact .inr (.inr ⟨pkt, trivial, rfl, rfl, updated_replaceSession hinv hat _,
        hwf.sent now hpay hfits⟩)

theorem closeServerSide_spec (hinv : table.Inv) (hat : table.At key (.active r))
    (hph : tunTcpPhaseAcceptsServerResponse r.phase = true) (now : Instant) :
    ∃ pkt, buildTunTcpFinAckResponsePacket r.flow r.serverNextSequenceNumber
        r.clientNextSequenceNumber r.windowSize = .ok pkt ∧
      Program.Ensures (closeServerSide key now) table fun res table' =>
        res = .ok (some ⟨r, r.serverNextSequenceNumber, r.clientNextSequenceNumber, pkt⟩) ∧
        table.Updated table' key (.serverClosed ⟨⟨r, r.serverNextSequenceNumber,
          r.clientNextSequenceNumber, pkt⟩, now⟩) ∧
        TunTcpServerClosedSession.WellFormed key ⟨⟨r, r.serverNextSequenceNumber,
          r.clientNextSequenceNumber, pkt⟩, now⟩ := by
  have hwf : r.WellFormed key := hinv.wellFormed hat
  have hsess : table.sessions.lookup key = some r := hat.session
  obtain ⟨pkt, hpkt⟩ := hwf.build_ok r.serverNextSequenceNumber r.clientNextSequenceNumber
    (.fromBits 0x0011) r.windowSize
  have hbuild : buildTunTcpFinAckResponsePacket r.flow r.serverNextSequenceNumber
      r.clientNextSequenceNumber r.windowSize = .ok pkt := hpkt
  refine ⟨pkt, hbuild, ?_⟩
  simp only [Program.Ensures, closeServerSide, hsess, hph, ite_true, hbuild]
  have herased := updated_eraseSession hinv hat
  have hinserted := updated_insertServerClosed (herased.inv hinv trivial) herased.at_key
  exact ⟨trivial, herased.trans (hinserted _), hwf, hph, rfl, rfl, hbuild⟩

theorem closeServerSide_other (hinv : table.Inv) {state : FlowState} (hat : table.At key state)
    (hst : ∀ r, state = .active r → tunTcpPhaseAcceptsServerResponse r.phase = false)
    (now : Instant) : ∃ st', table.Updated ((closeServerSide key now) table).2 key st' ∧
      st'.WellFormed key := by
  unfold closeServerSide
  cases hlook : table.sessions.lookup key with
  | none => exact ⟨state, .refl hinv hat, hinv.wellFormed hat⟩
  | some r =>
    obtain rfl : state = .active r :=
      session_eq_some.mp (hat.session.symm.trans hlook)
    simp only [hst r rfl, Bool.false_eq_true, ite_false]
    exact ⟨.absent, updated_eraseSession hinv hat, trivial⟩

end

end KeliNative.Tun
