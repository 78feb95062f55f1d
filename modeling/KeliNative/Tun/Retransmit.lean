import KeliNative.Tun.Script
import KeliNative.Tun.ServerReads

/-!
# Asking for server data again

A session retains the latest payload until the client acknowledges all of it.
-/

namespace KeliNative.Tun
open TunTcpSessionTable TunTcpSessionKey List

section

variable {α : Type} {key : TunTcpSessionKey} {table : TunTcpSessionTable} {r : TunTcpSessionRecord}

theorem ifLet_quiet {ρ β : Type} {operation : TableProgram (Option α)}
    (h : operation table = (.ok none, table)) (found : α → SessionProgram ρ β)
    (next : SessionProgram ρ β) (init : ρ) :
    Program.ifLet (onTable operation) found next (table, init) = next (table, init) := by
  simp only [Program.ifLet, Program.bind, onTable, h]
  rfl

theorem ifLet_found {ρ β : Type} {operation : TableProgram (Option α)} {x : α}
    (h : (operation table).1 = .ok (some x)) (step : α → β) (next : SessionProgram ρ β)
    (init : ρ) : (Program.ifLet (onTable operation) (fun x => Program.pure (step x)) next
      (table, init)).1 = .ok (step x) := by
  simp only [Program.ifLet, Program.bind, onTable, h]
  rfl

theorem acceptsClientData_of_empty {seg : TunTcpSegment} (h : seg.payload = []) :
    acceptsClientData seg r = false := by
  simp [acceptsClientData, h]

theorem clientPayloadBlock_quiet {ρ : Type} (relay : TunTcpSessionRelay ρ) {seg : TunTcpSegment}
    (now : Instant) (hkey : fromFlow seg.flow = .ok key)
    (hr : table.sessions.lookup key = some r) (hpay : seg.payload = [])
    (next : SessionProgram ρ TunTcpSessionStep) (init : ρ) :
    clientPayloadBlock relay seg now next (table, init) = next (table, init) := by
  have hacpt := acceptsClientData_of_empty (r := r) hpay
  have haccept : acceptClientPayload seg now table = (.ok none, table) :=
    withSession_quiet hkey hr (by simp [hacpt])
  have hoverlap : acceptOverlappingClientPayload seg now table = (.ok none, table) :=
    withSession_quiet hkey hr (by simp [hacpt])
  have hduplicate : acknowledgeDuplicateClientPayload seg now table = (.ok none, table) :=
    withSession_quiet hkey hr (by simp [hacpt])
  have hordered : acknowledgeOutOfOrderClientPayload seg now table = (.ok none, table) :=
    withSession_quiet hkey hr (by simp [hacpt])
  rw [clientPayloadBlock, ifLet_quiet haccept, ifLet_quiet hoverlap, ifLet_quiet hduplicate,
    ifLet_quiet hordered]

theorem process_retransmits {ρ : Type} (relay : TunTcpSessionRelay ρ) (a : Arrival)
    {unacked : TunTcpServerUnackedPayload} (hkey : fromFlow a.segment.flow = .ok key)
    (hr : table.sessions.lookup key = some r) (hwf : r.WellFormed key)
    (hph : tunTcpPhaseAcceptsServerResponse r.phase = true) (hack : isPureAck a.segment = true)
    (hseq : a.segment.sequenceNumber = r.clientNextSequenceNumber)
    (hunack : r.serverUnackedPayload = some unacked)
    (hackn : a.segment.acknowledgmentNumber = unacked.sequenceNumber) (init : ρ) :
    ∃ resp, (processTunTcpSessionSegmentWithRelayPlan relay a.segment a.relayPlan a.now
        a.serverInitialSequenceNumber a.windowSize (table, init)).1 =
        .ok (.serverPayloadRetransmission resp) ∧
      buildTunTcpPayloadResponsePacket r.flow unacked.sequenceNumber r.clientNextSequenceNumber
        r.windowSize unacked.payload = .ok resp.packet := by
  obtain ⟨pkt, hpkt, hresend⟩ := resendUnacked_ok hwf hunack a.now
  obtain ⟨hflag, hsyn, hrst, hfin, hpay⟩ := isPureAck_iff.mp hack
  have hinitial : isInitialTcpSynSegment a.segment = false := by
    simp [isInitialTcpSynSegment, hsyn]
  have hopn : r.phase ≠ .synReceived := by
    intro h
    rw [h] at hph
    cases hph
  have happly : applyAck a.segment a.now table = (.ok none, table) :=
    withSession_quiet hkey hr (by simp [hopn])
  have hretransmit : (retransmitServerPayload a.segment a.now table).1 =
      .ok (some ⟨r.touched a.now, unacked.sequenceNumber, r.clientNextSequenceNumber,
        unacked.payload, pkt⟩) := by
    simp [retransmitServerPayload, hack, withSession, hkey, hr, hunack, hph, hseq,
      hackn, hresend]
  refine ⟨⟨r.touched a.now, unacked.sequenceNumber, r.clientNextSequenceNumber, unacked.payload,
    pkt⟩, ?_, hpkt⟩
  have hest : establishBlock relay a.segment a.relayPlan a.now (table, init) =
      (.ok none, table, init) := by
    rw [establishBlock, if_pos (by simp [hflag, hsyn]), ifLet_quiet happly]
    rfl
  rw [processTunTcpSessionSegmentWithRelayPlan, if_neg (by simp [hrst, hfin]),
    if_neg (by simp [hinitial]), processOpenSegment]
  show (Program.bind _ _ (table, init)).1 = _
  rw [Program.bind, hest]
  show (clientPayloadBlock relay a.segment a.now _ (table, init)).1 = _
  rw [clientPayloadBlock_quiet relay a.now hkey hr hpay]
  exact ifLet_found hretransmit _ _ init

end

/-- The acknowledgment number of an entry's segment, if the segment acknowledges part of what
the session of `key` had sent by then. -/
def Entry.validAck (key : TunTcpSessionKey) (entry : Entry) : Option UInt32 :=
  match entry.input, entry.before.sessions.lookup key with
  | .segment a, some r =>
    if TunTcpSessionKey.fromFlow a.segment.flow = .ok key ∧ a.segment.flags.ack = true ∧
        tcpSegmentAcknowledgesKnownServerSequence a.segment r = true then
      some a.segment.acknowledgmentNumber
    else none
  | _, _ => none

def validAcks (key : TunTcpSessionKey) (entries : List Entry) : List UInt32 :=
  entries.filterMap (Entry.validAck key)

theorem validAcks_append (key : TunTcpSessionKey) (entries : List Entry) (entry : Entry) :
    validAcks key (entries ++ [entry]) = validAcks key entries ++ (entry.validAck key).toList := by
  rw [validAcks, filterMap_append, validAcks]
  cases h : entry.validAck key <;> simp [h]

theorem Entry.validAck_latest {key : TunTcpSessionKey} {entry : Entry} {a : Arrival}
    {r : TunTcpSessionRecord} (hin : entry.input = .segment a)
    (hkey : fromFlow a.segment.flow = .ok key)
    (hbef : entry.before.At key (.active r)) (hack : a.segment.flags.ack = true)
    (hlatest : a.segment.acknowledgmentNumber = r.serverNextSequenceNumber) :
    entry.validAck key = some r.serverNextSequenceNumber := by
  have hknown : tcpSegmentAcknowledgesKnownServerSequence a.segment r = true := by
    rw [tcpSegmentAcknowledgesKnownServerSequence, hlatest]
    exact SeqNum.between_right _ _
  simp only [Entry.validAck, hin, hbef.session, FlowState.session_active, hkey, hack, hknown,
    and_self, ite_true, hlatest]

/-- What a session retains: the latest fresh payload, unless all of it was acknowledged. -/
structure Retained (key : TunTcpSessionKey) (state : FlowState) (entries : List Entry) : Prop where
  acked : ∀ r, state = .active r → r.serverUnackedPayload = none →
    r.serverNextSequenceNumber = r.serverInitialSequenceNumber + 1 ∨
      r.serverNextSequenceNumber ∈ validAcks key entries
  unacked : ∀ r, state = .active r → ∀ unacked, r.serverUnackedPayload = some unacked →
    ∃ fresh, (freshSegments key entries).getLast? = some fresh ∧
      fresh.sequenceNumber = unacked.sequenceNumber ∧ fresh.payload = unacked.payload

section

variable {key : TunTcpSessionKey} {a : Arrival} {entry : Entry} {entries : List Entry}
  {state state' : FlowState}

theorem retained_left (hst : state.session = none) : Retained key state entries := by
  constructor
  · rintro r rfl
    cases hst
  · rintro r rfl
    cases hst

theorem Retained.kept {r r' : TunTcpSessionRecord} (h : Retained key (.active r) entries)
    (hfresh : entry.freshSegments key = []) (hkept : NumbersKept a r r')
    (hlatest : a.segment.flags.ack = true →
      a.segment.acknowledgmentNumber = r.serverNextSequenceNumber →
      entry.validAck key = some r.serverNextSequenceNumber) :
    Retained key (.active r') (entries ++ [entry]) := by
  constructor
  · rintro _ ⟨⟩ hnone
    rw [hkept.next, hkept.initial, validAcks_append]
    rcases hkept.unacked with hsame | ⟨_, hack, hnum⟩
    · refine (h.acked r rfl (hsame.symm.trans hnone)).imp_right fun hmem => ?_
      exact mem_append_left _ hmem
    · refine .inr (mem_append_right _ ?_)
      simp [hlatest hack hnum]
  · rintro _ ⟨⟩ unacked hunack
    rw [freshSegments_append, hfresh, append_nil]
    rcases hkept.unacked with hsame | ⟨hnone, _⟩
    · exact h.unacked r rfl unacked (hsame.symm.trans hunack)
    · rw [hnone] at hunack
      cases hunack

theorem retained_run {ctl : Control} {pkts : List Bytes} (hin : entry.input = .segment a)
    (hkey : fromFlow a.segment.flow = .ok key) (hbef : entry.before.At key state)
    (hrun : FlowRun key a .start state (entry.callsOf key) pkts ctl state')
    (hemits : Emits key entry ctl pkts) (h : Retained key state entries) :
    Retained key state' (entries ++ [entry]) := by
  cases hsess : state'.session with
  | none => exact retained_left hsess
  | some r' =>
    obtain rfl := FlowState.session_eq_some.mp hsess
    cases hrun.fresh with
    | nothing hchs hdata hkept =>
      obtain ⟨r, rfl, hnumbers⟩ := hkept r' rfl
      exact h.kept (freshSegments_nothing hchs hdata hemits) hnumbers fun hack hlatest =>
        Entry.validAck_latest hin hkey hbef hack hlatest
    | @sent r r₁ data hst hkept hst' _ hctl hchs hdata =>
      cases hst'
      have hpkts : entry.packetsOf key = pkts :=
        hemits.resolve_right fun hfail => hfail.2 hctl
      obtain ⟨fresh, hfresh, hnumbers⟩ := map_eq_singleton_iff.mp hdata
      refine ⟨fun _ hr hnone => ?_, ?_⟩
      · cases hr
        cases hnone
      · rintro _ ⟨⟩ unacked ⟨⟩
        refine ⟨fresh, ?_, ?_, ?_⟩
        · rw [freshSegments_append, Entry.freshSegments, if_neg (by simp [hchs]), hpkts, hfresh,
            getLast?_concat]
        · exact (congrArg Prod.fst hnumbers).trans hkept.next.symm
        · exact congrArg Prod.snd hnumbers

theorem Retained.next (hbef : entry.before.At key state)
    (hcont : Continues key entry state state') (h : Retained key state entries) :
    Retained key state' (entries ++ [entry]) := by
  cases hcont with
  | idle hcalls hpkts =>
    have hfresh : entry.freshSegments key = [] := by
      simp [Entry.freshSegments, hcalls, serverChunks]
    constructor
    · intro r hr hnone
      rw [validAcks_append]
      exact (h.acked r hr hnone).imp_right fun hmem => mem_append_left _ hmem
    · rw [freshSegments_append, hfresh, append_nil]
      exact h.unacked
  | pruned | expired => exact retained_left rfl
  | run hin hkey hrun hemits => exact retained_run hin hkey hbef hrun hemits h

end

/-- A bare acknowledgment of the start of the latest data packet is answered by its whole
payload. -/
theorem latest_payload_retransmittable {ρ : Type} (relay : TunTcpSessionRelay ρ)
    (maxActiveSessions : ℕ) (relayState : ρ) (key : TunTcpSessionKey) (inputs : List Input)
    (r : TunTcpSessionRecord)
    (hr : (execute relay maxActiveSessions relayState inputs).table.sessions.lookup key = some r)
    (hph : tunTcpPhaseAcceptsServerResponse r.phase = true) (highest : UInt32)
    (hhighest : ∀ x ∈ validAcks key
        (incarnation key (execute relay maxActiveSessions relayState inputs).trace),
      SeqNum.offset (r.serverInitialSequenceNumber + 1) x ≤
        SeqNum.offset (r.serverInitialSequenceNumber + 1) highest)
    (hpend : SeqNum.offset (r.serverInitialSequenceNumber + 1) highest <
      SeqNum.offset (r.serverInitialSequenceNumber + 1) r.serverNextSequenceNumber)
    (fresh : TunTcpSegment)
    (hfresh : (freshSegments key (incarnation key
      (execute relay maxActiveSessions relayState inputs).trace)).getLast? = some fresh)
    (hlatest : highest = fresh.sequenceNumber) (a : Arrival)
    (hkey : TunTcpSessionKey.fromFlow a.segment.flow = .ok key) (hack : isPureAck a.segment = true)
    (hseq : a.segment.sequenceNumber = r.clientNextSequenceNumber)
    (hackn : a.segment.acknowledgmentNumber = highest) :
    ∃ segment, segmentsOf key [((execute relay maxActiveSessions relayState inputs).react relay
        (.segment a)).1] = [segment] ∧ segment.sequenceNumber = highest ∧
      segment.payload = fresh.payload ∧ segment.payload ≠ [] := by
  have hrun := execute_induction relay maxActiveSessions relayState key (fun _ => True)
    (fun _ state entries => Retained key state entries) ?_ ?_ inputs (fun _ _ => trivial)
  · have hinv : (execute relay maxActiveSessions relayState inputs).table.Inv := execute_inv inputs
    generalize execute relay maxActiveSessions relayState inputs = e at *
    rcases hrun with ⟨_, habsent⟩ | ⟨_, state, _, hat, hretained⟩
    · cases habsent.session.symm.trans hr
    · obtain rfl := FlowState.session_eq_some.mp (hat.session.symm.trans hr)
      have hwf : r.WellFormed key := hinv.wellFormed hat
      cases hunack : r.serverUnackedPayload with
      | none =>
        -- Everything was acknowledged, so nothing lies beyond the highest acknowledgment.
        rcases hretained.acked r rfl hunack with hnext | hmem
        · rw [hnext, SeqNum.offset_self] at hpend
          exact absurd hpend (Nat.not_lt_zero _)
        · exact absurd hpend (Nat.not_lt.mpr (hhighest _ hmem))
      | some unacked =>
        obtain ⟨fresh', hfresh', hnum, hpay⟩ := hretained.unacked r rfl unacked hunack
        obtain rfl := Option.some.inj (hfresh'.symm.trans hfresh)
        obtain ⟨response, hres, hbuild⟩ := process_retransmits relay.recording a hkey hr hwf hph
          hack hseq hunack (hackn.trans (hlatest.trans hnum)) (e.relayState, [])
        have hpkts : (e.react relay (.segment a)).1.packetsOf key = [response.packet] :=
          (Entry.packetsOf_ok rfl hkey (congrArg some hres)).trans rfl
        have hparse := parse_buildTunTcpResponsePacket _ _ _ _ _ _ _ hbuild
        refine ⟨⟨r.flow.reversed, unacked.sequenceNumber, r.clientNextSequenceNumber, 20,
          .fromBits 0x0018, r.windowSize, unacked.payload⟩, ?_, hnum.symm.trans hlatest.symm,
          hpay.symm, (hwf.unacked _ hunack).1⟩
        simp only [segmentsOf, packetsOf, flatMap_cons, flatMap_nil, hpkts,
          append_nil, filterMap_cons, hparse, Except.toOption, filterMap_nil]
  · intro a state entry _ hstarts
    refine ⟨?_, ?_⟩
    · rintro _ ⟨⟩ _
      exact .inl rfl
    · rintro _ ⟨⟩ _ ⟨⟩
  · exact fun _ _ _ _ _ _ hbef _ _ hcont h => h.next hbef hcont

/-- A client that opens a session and asks for data twice without acknowledging it. -/
def askingClient : List Input :=
  [clientSegment 100 0 0x0002 [], clientSegment 101 8 0x0010 [], clientSegment 101 8 0x0010 []].map
    fun segment => .segment (.ofClient 7 segment)

def askingRun : Execution (List TunTcpServerRead) :=
  execute (scriptedRelay (.ok ())) 4 [.payload [1, 2]] askingClient

theorem latest_payload_retransmittable_asking : ∃ segment,
    segmentsOf clientKey [(askingRun.react (scriptedRelay (.ok ()))
      (.segment (.ofClient 7 (clientSegment 101 8 0x0010 [])))).1] = [segment] ∧
    segment.sequenceNumber = 8 ∧ segment.payload = [1, 2] := by
  have hr : askingRun.table.sessions.lookup clientKey = some
      ⟨clientKey, clientFlow, 100, 101, 7, 10, some ⟨8, 101, [1, 2]⟩, 0x4000, .established, 0⟩ := by
    decide
  have hacks : validAcks clientKey (incarnation clientKey askingRun.trace) = [8, 8] := by decide
  have hfresh : (freshSegments clientKey (incarnation clientKey askingRun.trace)).getLast? =
      some ⟨clientFlow.reversed, 8, 101, 20, .fromBits 0x0018, 0x4000, [1, 2]⟩ := by decide
  have hhighest : ∀ x ∈ validAcks clientKey (incarnation clientKey askingRun.trace),
      SeqNum.offset (7 + 1) x ≤ SeqNum.offset (7 + 1) 8 := by
    rw [hacks]
    intro x hx
    obtain rfl : x = 8 := by simpa using hx
    exact le_rfl
  obtain ⟨segment, hsegs, hseq, hpay, _⟩ := latest_payload_retransmittable
    (scriptedRelay (.ok ())) 4 [.payload [1, 2]] clientKey askingClient _ hr rfl 8 hhighest
    (by decide) _ hfresh rfl (.ofClient 7 (clientSegment 101 8 0x0010 [])) (by decide) (by decide) rfl rfl
  exact ⟨segment, hsegs, hseq, hpay⟩

/-- A client that sends a byte before it has acknowledged the first payload, so that a second
payload is read. -/
def talkingClient : List Input :=
  askingClient ++ [.segment (.ofClient 7 (clientSegment 101 8 0x0018 [9]))]

def talkingRun : Execution (List TunTcpServerRead) :=
  execute (scriptedRelay (.ok ())) 4 [.payload [1, 2], .payload [3]] talkingClient

/-- The first of two outstanding payloads is not sent again. -/
theorem first_of_two_payloads_lost :
    (talkingRun.table.sessions.lookup clientKey).map (fun r => (r.phase, r.clientNextSequenceNumber,
      r.serverInitialSequenceNumber, r.serverNextSequenceNumber)) = some (.established, 102, 7, 11) ∧
    validAcks clientKey (incarnation clientKey talkingRun.trace) = [8, 8, 8] ∧
    segmentsOf clientKey [(talkingRun.react (scriptedRelay (.ok ()))
      (.segment (.ofClient 7 (clientSegment 102 8 0x0010 [])))).1] = [] := by
  decide

end KeliNative.Tun
