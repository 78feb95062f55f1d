import KeliNative.Tun.Script
import KeliNative.Tun.StepInvariant

/-!
# Reachable session tables

What holds in every table that operations, steps and prunes reach.
-/

namespace KeliNative.Tun
open TunTcpSessionTable Option

inductive TunTcpSessionTable.Reachable (n : ℕ) : TunTcpSessionTable → Prop where
  | empty : Reachable n (withMaxActiveSessions n)
  | segment {table : TunTcpSessionTable} (h : Reachable n table) (operation : SegmentOperation)
      (segment : TunTcpSegment) (now : Instant) : Reachable n (operation.apply segment now table)
  | startFromSyn {table : TunTcpSessionTable} (h : Reachable n table) (segment : TunTcpSegment)
      (serverInitialSequenceNumber : UInt32) (windowSize : UInt16) (now : Instant) :
      Reachable n (startFromSyn segment serverInitialSequenceNumber windowSize now table).2
  | sendServerPayload {table : TunTcpSessionTable} (h : Reachable n table) (flow : TunPacketFlow)
      (payload : Bytes) (now : Instant) : Reachable n (sendServerPayload flow payload now table).2
  | closeServerSide {table : TunTcpSessionTable} (h : Reachable n table) (key : TunTcpSessionKey)
      (now : Instant) : Reachable n (closeServerSide key now table).2
  | pruneIdle {table : TunTcpSessionTable} (h : Reachable n table) (now : Instant)
      (idleTimeout : Duration) : Reachable n (pruneIdle now idleTimeout table).2
  | process {ρ : Type} {table : TunTcpSessionTable} (h : Reachable n table)
      (relay : TunTcpSessionRelay ρ) (a : Arrival) (relayState : ρ) :
      Reachable n (processTunTcpSessionSegmentWithRelayPlan relay a.segment a.relayPlan a.now
        a.serverInitialSequenceNumber a.windowSize (table, relayState)).2.1
  | prune {ρ : Type} {table : TunTcpSessionTable} (h : Reachable n table)
      (relay : TunTcpSessionRelay ρ) (now : Instant) (idleTimeout : Duration) (relayState : ρ) :
      Reachable n (pruneIdleTunTcpSessions relay now idleTimeout (table, relayState)).2.1

theorem TunTcpSessionTable.Reachable.sound {n : ℕ} {table : TunTcpSessionTable}
    (h : Reachable n table) : table.Sound (max n 1) := by
  induction h with
  | empty => exact ⟨withMaxActiveSessions_inv n, rfl⟩
  | segment _ operation seg now ih =>
    exact operation_sound ⟨seg, none, 0, 0, now⟩ operation _ ih
  | startFromSyn _ seg serverInitialSequenceNumber windowSize now ih =>
    exact startFromSyn_preserves ⟨seg, none, serverInitialSequenceNumber, windowSize, now⟩ _ ih
  | sendServerPayload _ flow data now ih => exact sendServerPayload_preserves flow data now _ ih
  | closeServerSide _ key now ih => exact closeServerSide_preserves key now _ ih
  | pruneIdle _ now idleTimeout ih => exact ⟨pruneIdle_inv ih.inv now idleTimeout, ih.limit_eq⟩
  | process _ relay a init ih =>
    exact (preserves_process (preserves_true relay) a _ ⟨ih, trivial⟩).1
  | prune _ relay now idleTimeout init ih =>
    exact (pruneIdleTunTcpSessions_preserves (preserves_true relay) now idleTimeout _ ⟨ih, trivial⟩).1

/-- The records a table holds under a key: an active session, or the one in a marker. -/
inductive TunTcpSessionTable.Stores (table : TunTcpSessionTable) (key : TunTcpSessionKey) :
    TunTcpSessionRecord → Prop where
  | session {r : TunTcpSessionRecord} (h : table.sessions.lookup key = some r) : Stores table key r
  | serverClosed {c : TunTcpServerClosedSession}
      (h : table.serverClosedSessions.lookup key = some c) : Stores table key c.response.session
  | postClosed {p : TunTcpPostCloseSession} (h : table.postClosedSessions.lookup key = some p) :
      Stores table key p.session

namespace TunTcpSessionTable.Inv

variable {table : TunTcpSessionTable} (hinv : table.Inv) {key : TunTcpSessionKey}

include hinv

theorem session {r : TunTcpSessionRecord} (h : table.sessions.lookup key = some r) :
    table.At key (.active r) := by
  obtain ⟨state, hat, _⟩ := hinv.flows key
  obtain rfl := FlowState.session_eq_some.mp (hat.session.symm.trans h)
  exact hat

theorem serverClosed {c : TunTcpServerClosedSession}
    (h : table.serverClosedSessions.lookup key = some c) : table.At key (.serverClosed c) := by
  obtain ⟨state, hat, _⟩ := hinv.flows key
  obtain rfl := FlowState.closed_eq_some.mp (hat.closed.symm.trans h)
  exact hat

theorem postClosed {p : TunTcpPostCloseSession}
    (h : table.postClosedSessions.lookup key = some p) : table.At key (.postClosed p) := by
  obtain ⟨state, hat, _⟩ := hinv.flows key
  obtain rfl := FlowState.post_eq_some.mp (hat.post.symm.trans h)
  exact hat

theorem stores {r : TunTcpSessionRecord} (h : table.Stores key r) : r.WellFormed key := by
  cases h with
  | session h => exact hinv.wellFormed (hinv.session h)
  | serverClosed h =>
    have hwf : TunTcpServerClosedSession.WellFormed key _ := hinv.wellFormed (hinv.serverClosed h)
    exact hwf.session
  | postClosed h =>
    have hwf : TunTcpPostCloseSession.WellFormed key _ := hinv.wellFormed (hinv.postClosed h)
    exact hwf.session

theorem session_disjoint_closed : table.sessions.keys.Disjoint table.serverClosedSessions.keys := by
  intro key hsess hclosed
  obtain ⟨r, hr⟩ := isSome_iff_exists.mp (AList.lookup_isSome.mpr hsess)
  obtain ⟨c, hc⟩ := isSome_iff_exists.mp (AList.lookup_isSome.mpr hclosed)
  cases (hinv.session hr).unique (hinv.serverClosed hc)

theorem session_disjoint_post : table.sessions.keys.Disjoint table.postClosedSessions.keys := by
  intro key hsess hpost
  obtain ⟨r, hr⟩ := isSome_iff_exists.mp (AList.lookup_isSome.mpr hsess)
  obtain ⟨p, hp⟩ := isSome_iff_exists.mp (AList.lookup_isSome.mpr hpost)
  cases (hinv.session hr).unique (hinv.postClosed hp)

theorem closed_disjoint_post :
    table.serverClosedSessions.keys.Disjoint table.postClosedSessions.keys := by
  intro key hclosed hpost
  obtain ⟨c, hc⟩ := isSome_iff_exists.mp (AList.lookup_isSome.mpr hclosed)
  obtain ⟨p, hp⟩ := isSome_iff_exists.mp (AList.lookup_isSome.mpr hpost)
  cases (hinv.serverClosed hc).unique (hinv.postClosed hp)

end TunTcpSessionTable.Inv

theorem TunTcpPostCloseSession.WellFormed.parses {key : TunTcpSessionKey}
    {p : TunTcpPostCloseSession} (h : p.WellFormed key) (hfin : p.clientFinSequenceNumber ≠ none) :
    ∃ pkt, p.clientFinAckPacket = some pkt ∧ parseTunTcpSegment pkt =
      .ok ⟨p.session.flow.reversed, p.serverNextSequenceNumber, p.clientNextSequenceNumber, 20,
        .fromBits 0x0010, p.session.windowSize, []⟩ := by
  have hsome : p.clientFinAckPacket.isSome = true := by
    rw [← h.recorded]
    exact isSome_iff_ne_none.mpr hfin
  obtain ⟨pkt, hpkt⟩ := isSome_iff_exists.mp hsome
  exact ⟨pkt, hpkt, parse_buildTunTcpResponsePacket _ _ _ _ _ _ _ (h.packet pkt hpkt)⟩

theorem reachable_table_consistent {n : ℕ} {table : TunTcpSessionTable} (h : table.Reachable n) :
    table.len ≤ max n 1 ∧
    table.sessions.keys.Disjoint table.serverClosedSessions.keys ∧
    table.sessions.keys.Disjoint table.postClosedSessions.keys ∧
    table.serverClosedSessions.keys.Disjoint table.postClosedSessions.keys ∧
    (∀ key r, table.Stores key r →
      r.key = key ∧ TunTcpSessionKey.fromFlow r.flow = .ok key ∧
      ∀ u, r.serverUnackedPayload = some u → u.payload ≠ [] ∧
        u.sequenceNumber + UInt32.ofNat u.payload.length = r.serverNextSequenceNumber) ∧
    (∀ key c, table.serverClosedSessions.lookup key = some c →
      c.response.sequenceNumber = c.response.session.serverNextSequenceNumber) ∧
    (∀ key p, table.postClosedSessions.lookup key = some p → p.clientFinSequenceNumber ≠ none →
      ∃ packet, p.clientFinAckPacket = some packet ∧ parseTunTcpSegment packet =
        .ok ⟨p.session.flow.reversed, p.serverNextSequenceNumber, p.clientNextSequenceNumber, 20,
          .fromBits 0x0010, p.session.windowSize, []⟩) := by
  obtain ⟨hinv, hlim⟩ := h.sound
  refine ⟨hlim ▸ hinv.limit, hinv.session_disjoint_closed, hinv.session_disjoint_post,
    hinv.closed_disjoint_post, ?_, ?_, ?_⟩
  · intro key r hr
    have hwf := hinv.stores hr
    refine ⟨hwf.key_eq, hwf.fromFlow, fun u hu => ?_⟩
    obtain ⟨hne, _, hseq⟩ := hwf.unacked u hu
    exact ⟨hne, hseq⟩
  · intro key c hc
    have hwf : c.WellFormed key := hinv.wellFormed (hinv.serverClosed hc)
    exact hwf.sequence
  · intro key p hp hfin
    have hwf : p.WellFormed key := hinv.wellFormed (hinv.postClosed hp)
    exact hwf.parses hfin

/-- A handshake and a `FIN`, with room for one session: the marker of the closed session. -/
theorem reachable_table_consistent_handshake :
    ∃ table : TunTcpSessionTable, table.Reachable 0 ∧ table.postClosedSessions.keys = [clientKey] ∧
      table.len ≤ max 0 1 := by
  let relay := scriptedRelay (.ok ())
  let syn := Arrival.ofClient 7 (clientSegment 100 0 0x0002 [])
  let fin := Arrival.ofClient 7 (clientSegment 101 8 0x0011 [])
  have h : TunTcpSessionTable.Reachable 0 _ := .process (.process .empty relay syn []) relay fin []
  exact ⟨_, h, by decide, (reachable_table_consistent h).1⟩

end KeliNative.Tun
