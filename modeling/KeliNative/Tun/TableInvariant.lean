import KeliNative.Tun.Keyless
import KeliNative.Tun.MarkerOps

/-!
# The session table invariant

Every public operation keeps `TunTcpSessionTable.Inv` and the session limit.
-/

namespace KeliNative.Tun
open TunTcpSessionTable Program FlowState TunTcpSessionKey

inductive SegmentOperation where
  | acknowledgeRetransmittedSyn
  | applyAck
  | acceptClientPayload
  | acceptOverlappingClientPayload
  | acknowledgeDuplicateClientPayload
  | acknowledgeOutOfOrderClientPayload
  | retransmitServerPayload
  | retransmitServerPayloadForDuplicateClientFin
  | retransmitServerClose
  | retransmitServerCloseForDuplicateClientFin
  | acknowledgeServerClose
  | acknowledgeServerCloseWithClientFin
  | acknowledgePostCloseAck
  | acknowledgePostCloseClientFin
  | removeServerCloseOnRst
  | removePostCloseOnRst
  | acceptClientFinWithPayload
  | acknowledgeClientFin
  | acknowledgeDuplicateClientFin
  | serverPayloadPollSession
  | acknowledgeClientAck
  | removeOnClose
  deriving DecidableEq

def SegmentOperation.apply (segment : TunTcpSegment) (now : Instant) (table : TunTcpSessionTable) :
    SegmentOperation → TunTcpSessionTable
  | .acknowledgeRetransmittedSyn =>
      (TunTcpSessionTable.acknowledgeRetransmittedSyn segment now table).2
  | .applyAck => (TunTcpSessionTable.applyAck segment now table).2
  | .acceptClientPayload => (TunTcpSessionTable.acceptClientPayload segment now table).2
  | .acceptOverlappingClientPayload =>
      (TunTcpSessionTable.acceptOverlappingClientPayload segment now table).2
  | .acknowledgeDuplicateClientPayload =>
      (TunTcpSessionTable.acknowledgeDuplicateClientPayload segment now table).2
  | .acknowledgeOutOfOrderClientPayload =>
      (TunTcpSessionTable.acknowledgeOutOfOrderClientPayload segment now table).2
  | .retransmitServerPayload => (TunTcpSessionTable.retransmitServerPayload segment now table).2
  | .retransmitServerPayloadForDuplicateClientFin =>
      (TunTcpSessionTable.retransmitServerPayloadForDuplicateClientFin segment now table).2
  | .retransmitServerClose => (TunTcpSessionTable.retransmitServerClose segment now table).2
  | .retransmitServerCloseForDuplicateClientFin =>
      (TunTcpSessionTable.retransmitServerCloseForDuplicateClientFin segment now table).2
  | .acknowledgeServerClose => (TunTcpSessionTable.acknowledgeServerClose segment now table).2
  | .acknowledgeServerCloseWithClientFin =>
      (TunTcpSessionTable.acknowledgeServerCloseWithClientFin segment now table).2
  | .acknowledgePostCloseAck => (TunTcpSessionTable.acknowledgePostCloseAck segment now table).2
  | .acknowledgePostCloseClientFin =>
      (TunTcpSessionTable.acknowledgePostCloseClientFin segment now table).2
  | .removeServerCloseOnRst => (TunTcpSessionTable.removeServerCloseOnRst segment table).2
  | .removePostCloseOnRst => (TunTcpSessionTable.removePostCloseOnRst segment table).2
  | .acceptClientFinWithPayload =>
      (TunTcpSessionTable.acceptClientFinWithPayload segment now table).2
  | .acknowledgeClientFin => (TunTcpSessionTable.acknowledgeClientFin segment now table).2
  | .acknowledgeDuplicateClientFin =>
      (TunTcpSessionTable.acknowledgeDuplicateClientFin segment now table).2
  | .serverPayloadPollSession => (TunTcpSessionTable.serverPayloadPollSession segment now table).2
  | .acknowledgeClientAck => (TunTcpSessionTable.acknowledgeClientAck segment now table).2
  | .removeOnClose => (TunTcpSessionTable.removeOnClose segment now table).2

def FlowState.pruned (now : Instant) (idleTimeout : Duration) : FlowState → FlowState
  | .absent => .absent
  | .active r => if idleFor now idleTimeout r.lastActivityAt then .absent else .active r
  | .serverClosed c => if idleFor now idleTimeout c.lastActivityAt then .absent else .serverClosed c
  | .postClosed p => if idleFor now idleTimeout p.lastActivityAt then .absent else .postClosed p

variable {table : TunTcpSessionTable} {key : TunTcpSessionKey}

theorem pruneIdle_at {state : FlowState} (hat : table.At key state) (now : Instant)
    (idle : Duration) : (pruneIdle now idle table).2.At key (state.pruned now idle) := by
  refine ⟨?_, ?_, ?_⟩
  · show (KeyMap.takeKeys _ table.sessions).2.lookup key = _
    rw [KeyMap.lookup_takeKeys_keysWhere, hat.session]
    cases state <;> simp [pruned, apply_ite session]
  · show (KeyMap.takeKeys _ table.serverClosedSessions).2.lookup key = _
    rw [KeyMap.lookup_takeKeys_keysWhere, hat.closed]
    cases state <;> simp [pruned, apply_ite closed]
  · show (KeyMap.takeKeys _ table.postClosedSessions).2.lookup key = _
    rw [KeyMap.lookup_takeKeys_keysWhere, hat.post]
    cases state <;> simp [pruned, apply_ite post]

theorem pruned_wellFormed {state : FlowState} (h : state.WellFormed key) (now : Instant)
    (idle : Duration) : (state.pruned now idle).WellFormed key := by
  cases state <;> simp only [pruned] <;> first | exact h | (split <;> [trivial; exact h])

theorem pruneIdle_inv (h : table.Inv) (now : Instant) (idle : Duration) :
    (pruneIdle now idle table).2.Inv := by
  refine ⟨le_trans (KeyMap.keys_length_takeKeys_le _ _) h.limit, fun key => ?_⟩
  obtain ⟨state, hat, hwf⟩ := h.flows key
  exact ⟨_, pruneIdle_at hat now idle, pruned_wellFormed hwf now idle⟩

structure TunTcpSessionTable.Sound (limit : ℕ) (table : TunTcpSessionTable) : Prop where
  inv : table.Inv
  limit_eq : table.maxActiveSessions = limit

theorem TunTcpSessionTable.Sound.updated {limit : ℕ} {table' : TunTcpSessionTable}
    (h : table.Sound limit) {state : FlowState} (hu : table.Updated table' key state)
    (hwf : state.WellFormed key) : table'.Sound limit :=
  ⟨hu.inv h.inv hwf, hu.maxActiveSessions.trans h.limit_eq⟩

section

variable {α : Type} {limit : ℕ}

theorem preserves_op {operation : TableProgram (Option α)} {flow : TunPacketFlow} {now : Instant}
    {rel : TunTcpSessionKey → FlowState → α → FlowState → Prop}
    (hlocal : ∀ key, fromFlow flow = .ok key →
      Localized key now operation (rel key))
    (hinert : ∀ error, fromFlow flow = .error error → Inert operation) :
    Preserves (Sound limit) operation := by
  intro table hsound
  cases hkey : fromFlow flow with
  | error error =>
    rcases hinert error hkey table with hrun | ⟨_, hrun⟩ <;> rw [hrun] <;> exact hsound
  | ok key =>
    obtain ⟨state, hat, _⟩ := hsound.inv.flows key
    obtain ⟨st', hu, hwf, _⟩ := hlocal key hkey table state hsound.inv hat
    exact hsound.updated hu hwf

variable (a : Arrival)

theorem startFromSyn_preserves :
    Preserves (Sound limit) (startFromSyn a.segment a.serverInitialSequenceNumber a.windowSize a.now) := by
  intro table hsound
  cases hkey : fromFlow a.segment.flow with
  | error error =>
    obtain ⟨error', hrun⟩ := startFromSyn_inert a hkey table
    rw [hrun]
    exact hsound
  | ok key =>
    rcases startFromSyn_spec a hkey hsound.inv with ⟨_, _, hsame⟩ | ⟨pkt, _, hpkt, _, hu⟩
    · rw [hsame]
      exact hsound
    · exact hsound.updated hu (newSession_wellFormed a hkey hpkt)

theorem sendServerPayload_preserves (flow : TunPacketFlow) (data : Bytes) (now : Instant) :
    Preserves (Sound limit) (sendServerPayload flow data now) := by
  intro table hsound
  cases hkey : fromFlow flow with
  | error error =>
    have hrun : sendServerPayload flow data now table = (.error error, table) := by
      simp only [sendServerPayload, withSession, hkey]
    rw [hrun]
    exact hsound
  | ok key =>
    obtain ⟨state, hat, hwf⟩ := hsound.inv.flows key
    cases hsess : state.session with
    | none =>
      have hlook : table.sessions.lookup key = none := hat.session.trans hsess
      simp only [sendServerPayload, withSession, hkey, hlook]
      exact hsound
    | some r =>
      obtain rfl := session_eq_some.mp hsess
      by_cases hph : tunTcpPhaseAcceptsServerResponse r.phase = true
      · rcases sendServerPayload_spec hsound.inv hat hkey hph data now with
          ⟨_, _, hsame⟩ | ⟨_, _, _, hsame⟩ | ⟨_, _, _, _, hu, hwf'⟩
        · rw [hsame]
          exact hsound
        · rw [hsame]
          exact hsound
        · exact hsound.updated hu hwf'
      · have hlook : table.sessions.lookup key = some r := hat.session
        simp only [sendServerPayload, withSession, hkey, hlook, hph, Bool.false_eq_true,
          false_and, ite_false, KeyMap.replace_self hlook]
        exact hsound

theorem closeServerSide_preserves (key : TunTcpSessionKey) (now : Instant) :
    Preserves (Sound limit) (closeServerSide key now) := by
  intro table hsound
  obtain ⟨state, hat, _⟩ := hsound.inv.flows key
  by_cases hopen : ∃ r, state = .active r ∧ tunTcpPhaseAcceptsServerResponse r.phase = true
  · obtain ⟨r, rfl, hph⟩ := hopen
    obtain ⟨pkt, _, _, hu, hwf⟩ := closeServerSide_spec hsound.inv hat hph now
    exact hsound.updated hu hwf
  · have hclosed : ∀ r, state = .active r → tunTcpPhaseAcceptsServerResponse r.phase = false := by
      intro r hr
      by_contra hph
      exact hopen ⟨r, hr, by simpa using hph⟩
    obtain ⟨st', hu, hwf⟩ := closeServerSide_other hsound.inv hat hclosed now
    exact hsound.updated hu hwf

theorem getFlow_preserves (flow : TunPacketFlow) : Preserves (Sound limit) (getFlow flow) := by
  intro table hsound
  unfold getFlow
  split <;> exact hsound

/-- Every operation on the flow of a segment keeps the table sound. -/
theorem operation_sound (operation : SegmentOperation) :
    ∀ table, Sound limit table → Sound limit (operation.apply a.segment a.now table) := by
  cases operation with
  | acknowledgeRetransmittedSyn =>
    exact preserves_op (fun _ hkey => acknowledgeRetransmittedSyn_localized a hkey)
      fun _ hbad => acknowledgeRetransmittedSyn_inert hbad a.now
  | applyAck =>
    exact preserves_op (fun _ hkey => applyAck_localized a hkey)
      fun _ hbad => inert_withSession hbad
  | acceptClientPayload =>
    exact preserves_op (fun _ hkey => acceptClientPayload_localized a hkey)
      fun _ hbad => inert_withSession hbad
  | acceptOverlappingClientPayload =>
    exact preserves_op (fun _ hkey => acceptOverlappingClientPayload_localized a hkey)
      fun _ hbad => inert_withSession hbad
  | acknowledgeDuplicateClientPayload =>
    exact preserves_op (fun _ hkey => acknowledgeDuplicateClientPayload_localized a hkey)
      fun _ hbad => inert_withSession hbad
  | acknowledgeOutOfOrderClientPayload =>
    exact preserves_op (fun _ hkey => acknowledgeOutOfOrderClientPayload_localized a hkey)
      fun _ hbad => inert_withSession hbad
  | retransmitServerPayload =>
    exact preserves_op (fun _ hkey => retransmitServerPayload_localized a hkey)
      fun _ hbad => retransmitServerPayload_inert hbad a.now
  | retransmitServerPayloadForDuplicateClientFin =>
    exact preserves_op (fun _ hkey => retransmitServerPayloadForDuplicateClientFin_localized a hkey)
      fun _ hbad => retransmitServerPayloadForDuplicateClientFin_inert hbad a.now
  | retransmitServerClose =>
    exact preserves_op (fun _ hkey => retransmitServerClose_localized a hkey)
      fun _ hbad => retransmitServerClose_inert hbad a.now
  | retransmitServerCloseForDuplicateClientFin =>
    exact preserves_op (fun _ hkey => retransmitServerCloseForDuplicateClientFin_localized a hkey)
      fun _ hbad => retransmitServerCloseForDuplicateClientFin_inert hbad a.now
  | acknowledgeServerClose =>
    exact preserves_op (fun _ hkey => acknowledgeServerClose_localized a hkey)
      fun _ hbad => acknowledgeServerClose_inert hbad a.now
  | acknowledgeServerCloseWithClientFin =>
    exact preserves_op (fun _ hkey => acknowledgeServerCloseWithClientFin_localized a hkey)
      fun _ hbad => acknowledgeServerCloseWithClientFin_inert hbad a.now
  | acknowledgePostCloseAck =>
    exact preserves_op (fun _ hkey => acknowledgePostCloseAck_localized a hkey)
      fun _ hbad => acknowledgePostCloseAck_inert hbad a.now
  | acknowledgePostCloseClientFin =>
    exact preserves_op (fun _ hkey => acknowledgePostCloseClientFin_localized a hkey)
      fun _ hbad => acknowledgePostCloseClientFin_inert hbad a.now
  | removeServerCloseOnRst =>
    exact preserves_op (fun _ hkey => removeServerCloseOnRst_localized a hkey)
      fun _ hbad => removeServerCloseOnRst_inert hbad
  | removePostCloseOnRst =>
    exact preserves_op (fun _ hkey => removePostCloseOnRst_localized a hkey)
      fun _ hbad => removePostCloseOnRst_inert hbad
  | acceptClientFinWithPayload =>
    exact preserves_op (fun _ hkey => acceptClientFinWithPayload_localized a hkey)
      fun _ hbad => acceptClientFinWithPayload_inert hbad a.now
  | acknowledgeClientFin =>
    exact preserves_op (fun _ hkey => acknowledgeClientFin_localized a hkey)
      fun _ hbad => acknowledgeClientFin_inert hbad a.now
  | acknowledgeDuplicateClientFin =>
    exact preserves_op (fun _ hkey => acknowledgeDuplicateClientFin_localized a hkey)
      fun _ hbad => acknowledgeDuplicateClientFin_inert hbad a.now
  | serverPayloadPollSession =>
    exact preserves_op (fun _ hkey => serverPayloadPollSession_localized a hkey)
      fun _ hbad => serverPayloadPollSession_inert hbad a.now
  | acknowledgeClientAck =>
    exact preserves_op (fun _ hkey => acknowledgeClientAck_localized a hkey)
      fun _ hbad => acknowledgeClientAck_inert hbad a.now
  | removeOnClose =>
    exact preserves_op (fun _ hkey => removeOnClose_localized a hkey)
      fun _ hbad => removeOnClose_inert hbad a.now

end

end KeliNative.Tun
