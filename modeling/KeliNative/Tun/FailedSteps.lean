import KeliNative.Tun.Connections
import KeliNative.Tun.RelayProtocol

/-!
# Steps that fail

A failed step has already written what the operations before the failed call wrote.
-/

namespace KeliNative.Tun
open TunTcpSessionTable List

/-- How far a step can have come before it calls the relay, and what it has made of the record. -/
inductive Reached (a : Arrival) (r : TunTcpSessionRecord) : Control → TunTcpSessionRecord → Prop where
  | start : Reached a r .start r
  | opened (hopens : a.Opens r) : Reached a r .opened (r.opened a.now)
  | wrote {frame : TunTcpClientPayloadFrame} (hdata : a.TakesData r frame)
      (hfin : a.segment.flags.fin = false) : Reached a r .reading (r.taken a.segment a.now)
  | openedWrote {frame : TunTcpClientPayloadFrame} (hopens : a.Opens r)
      (hdata : a.TakesData (r.opened a.now) frame) :
      Reached a r .reading ((r.opened a.now).taken a.segment a.now)
  | finTaken (hfin : isClientFin a.segment = true) (hacpt : acceptsClientFin a.segment r = true) :
      Reached a r .reading (r.finished a.segment a.now)
  | finAgain (hph : r.phase = .clientFinReceived) :
      Reached a r .reading (r.acknowledged a.segment a.now)
  | polled (hack : isPureAck a.segment = true)
      (hph : tunTcpPhaseAcceptsServerResponse r.phase = true) :
      Reached a r .polling (r.acknowledged a.segment a.now)

def RelayEvent.failed : RelayEvent → Bool
  | .establish _ _ result | .write _ result | .shutdown _ result | .close _ result => !result.isOk
  | .read _ result | .poll _ result => !result.isOk

def Control.calling : Control → Bool
  | .start | .opened | .reading | .polling => true
  | _ => false

inductive LeftBy (a : Arrival) (r : TunTcpSessionRecord) : TunTcpSessionRecord → Prop where
  | opening {r' : TunTcpSessionRecord} (hph : r.phase = .synReceived)
      (hph' : r'.phase = .established) : LeftBy a r r'
  | writing {frame : TunTcpClientPayloadFrame} (hdata : a.TakesData r frame)
      (hfin : a.segment.flags.fin = false) : LeftBy a r (r.taken a.segment a.now)
  | finishing (hfin : isClientFin a.segment = true) (hacpt : acceptsClientFin a.segment r = true) :
      LeftBy a r (r.finished a.segment a.now)
  | listening (hquiet : r.phase = .clientFinReceived ∨ isPureAck a.segment = true ∧
        tunTcpPhaseAcceptsServerResponse r.phase = true) :
      LeftBy a r (r.acknowledged a.segment a.now)

section

variable {key : TunTcpSessionKey} {a : Arrival} {control c' : Control}
  {state state' : FlowState} {calls : List RelayEvent} {packets : List Bytes}
  {r r₁ : TunTcpSessionRecord}

theorem FlowStep.reached (step : FlowStep key a control (.active r₁) calls packets c' state')
    (h : Reached a r control r₁) (hcalling : c'.calling = true) :
    ∃ r', state' = .active r' ∧ Reached a r c' r' := by
  cases step with
  | opened hopens res =>
    cases res with
    | error => cases hcalling
    | ok =>
      cases h
      exact ⟨_, rfl, .opened hopens⟩
  | wrote _ hdata hfin res =>
    cases res with
    | error => cases hcalling
    | ok =>
      cases h with
      | start => exact ⟨_, rfl, .wrote hdata hfin⟩
      | opened hopens => exact ⟨_, rfl, .openedWrote hopens hdata⟩
      | _ => simp_all
  | @finTaken _ _ _ res hfin hacpt =>
    cases res with
    | error => cases hcalling
    | ok =>
      cases h
      exact ⟨_, rfl, .finTaken hfin hacpt⟩
  | finAgain _ hph =>
    cases h
    exact ⟨_, rfl, .finAgain hph⟩
  | polled hack hph =>
    cases h
    exact ⟨_, rfl, .polled hack hph⟩
  | closedByServer _ _ _ res | removedByFin _ _ _ _ res | removedByRst _ _ res =>
    cases res <;> cases hcalling
  | _ => cases hcalling

theorem FlowStep.calling (step : FlowStep key a control state calls packets c' state')
    (h : c'.calling = true ∨ c' = .failed) : control.calling = true := by
  cases step with
  | touched | readNothing | oversized | sent | clientAcked => simp [Control.calling] at h
  | wrote hctl => rcases hctl with rfl | rfl <;> rfl
  | ackedData hctl => rcases hctl with rfl | rfl <;> rfl
  | readFailed _ _ hcall | closedByServer _ hcall => cases hcall <;> rfl
  | _ => rfl

theorem FlowStep.succeeds (step : FlowStep key a control state calls packets c' state')
    (h : c'.calling = true) : ∀ ev ∈ calls, ev.failed = false := by
  cases step with
  | opened _ res | wrote _ _ _ res =>
    cases res with
    | ok => simp [RelayEvent.failed, Except.isOk, Except.toBool]
    | error => cases h
  | @finTaken _ _ _ res _ _ _ hcalls =>
    cases res with
    | ok => cases hcalls <;> simp [RelayEvent.failed, Except.isOk, Except.toBool]
    | error => cases h
  | closedByServer _ _ _ res | removedByFin _ _ _ _ res | removedByRst _ _ res =>
    cases res <;> cases h
  | polled | finAgain => simp
  | _ => cases h

theorem FlowRun.reached (run : FlowRun key a control state calls packets c' state')
    (hstart : control = .start) (hst : state = .active r) (hcalling : c'.calling = true) :
    (∃ r', state' = .active r' ∧ Reached a r c' r') ∧ ∀ ev ∈ calls, ev.failed = false := by
  induction run with
  | refl =>
    subst hstart hst
    exact ⟨⟨r, rfl, .start⟩, by simp⟩
  | step run step ih =>
    obtain ⟨⟨r₁, rfl, hreached⟩, hcalls⟩ := ih hst (step.calling (.inl hcalling))
    refine ⟨step.reached hreached hcalling, fun ev hev => ?_⟩
    rcases mem_append.mp hev with hev | hev
    · exact hcalls ev hev
    · exact step.succeeds hcalling ev hev

theorem FlowStep.leftBy (step : FlowStep key a control (.active r₁) calls packets .failed state')
    (h : Reached a r control r₁) {ev : RelayEvent} (hev : ev ∈ calls)
    (hfail : ev.failed = true) (hkind : ev.kind ≠ .close) :
    ∃ r', state' = .active r' ∧ LeftBy a r r' := by
  generalize hctl : Control.failed = c' at step
  cases step with
  | opened hopens =>
    cases h
    exact ⟨_, rfl, .opening hopens.phase rfl⟩
  | wrote _ hdata hfin =>
    cases h with
    | start => exact ⟨_, rfl, .writing hdata hfin⟩
    | opened hopens => exact ⟨_, rfl, .opening hopens.phase (taken_phase ..)⟩
    | _ => simp_all
  | finTaken hfin hacpt =>
    cases h
    exact ⟨_, rfl, .finishing hfin hacpt⟩
  | readFailed _ _ hcall =>
    refine ⟨_, rfl, ?_⟩
    cases h with
    | wrote hdata hfin => exact .writing hdata hfin
    | openedWrote hopens => exact .opening hopens.phase (taken_phase ..)
    | finTaken hfin hacpt => exact .finishing hfin hacpt
    | finAgain hph => exact .listening (.inl hph)
    | polled hack hph => exact .listening (.inr ⟨hack, hph⟩)
    | start | opened => cases hcall
  | closedByServer _ hcall =>
    rcases mem_cons.mp hev with rfl | hev
    · cases hcall <;> cases hfail
    · rw [mem_singleton.mp hev] at hkind
      exact absurd rfl hkind
  | removedByFin | removedByRst =>
    rw [mem_singleton.mp hev] at hkind
    exact absurd rfl hkind
  | _ => cases hctl

theorem FlowRun.calls_of_left (run : FlowRun key a control state calls packets c' state')
    (hst : state.session = none) : calls = [] := by
  induction run with
  | refl => rfl
  | @step _ _ _ state₁ _ _ _ _ _ run step ih =>
    have hleft : state₁.session = none := by
      cases hsess : state₁.session with
      | none => rfl
      | some r₁ =>
        obtain ⟨r, rfl, _⟩ := run.clientInitial r₁ (FlowState.session_eq_some.mp hsess)
        cases hst
    rw [ih hst, step.calls_of_left hleft, nil_append]

theorem FlowRun.leftBy (run : FlowRun key a .start state calls packets .failed state')
    {ev : RelayEvent} (hev : ev ∈ calls) (hfail : ev.failed = true)
    (hkind : ev.kind ≠ .close) :
    ∃ r r', state = .active r ∧ state' = .active r' ∧ LeftBy a r r' := by
  cases hsess : state.session with
  | none =>
    rw [run.calls_of_left hsess] at hev
    cases hev
  | some r =>
    obtain rfl := FlowState.session_eq_some.mp hsess
    cases run with
    | step run step =>
      obtain ⟨⟨r₁, rfl, hreached⟩, hcalls⟩ := run.reached rfl rfl (step.calling (.inr rfl))
      rcases mem_append.mp hev with hev | hev
      · rw [hcalls ev hev] at hfail
        cases hfail
      · obtain ⟨r', hr', hleft⟩ := step.leftBy hreached hev hfail hkind
        exact ⟨r, r', rfl, hr', hleft⟩

end

/-- The record after the step says the same about the session as the one before. -/
structure SameSession (r r' : TunTcpSessionRecord) : Prop where
  phase : r'.phase = r.phase
  clientNext : r'.clientNextSequenceNumber = r.clientNextSequenceNumber
  serverNext : r'.serverNextSequenceNumber = r.serverNextSequenceNumber
  unacked : r'.serverUnackedPayload = r.serverUnackedPayload

/-- The segments a relay error does no harm to: nothing is opened, taken or finished before the
failed call, and no retained payload is dropped. -/
structure Harmless (a : Arrival) (r : TunTcpSessionRecord) : Prop where
  opened : r.phase ≠ .synReceived
  nothingTaken : r.phase = .clientFinReceived ∨
    a.segment.flags.fin = false ∧ a.segment.payload.length % 2 ^ 32 = 0
  nothingDropped : r.serverUnackedPayload = none ∨
    a.segment.acknowledgmentNumber ≠ r.serverNextSequenceNumber

theorem clear_same_iff (seg : TunTcpSegment) (r : TunTcpSessionRecord) :
    (clearServerUnackedPayloadIfLatestAcknowledged seg r).serverUnackedPayload =
      r.serverUnackedPayload ↔
    r.serverUnackedPayload = none ∨ seg.acknowledgmentNumber ≠ r.serverNextSequenceNumber := by
  rw [clear_unacked]
  split
  next h =>
    rw [eq_comm]
    simp [h]
  next h => simp [h]

theorem ofNat_eq_zero_iff (n : ℕ) : UInt32.ofNat n = 0 ↔ n % 2 ^ 32 = 0 := by
  rw [← UInt32.toNat_inj]
  simp

theorem takesData_next_iff {a : Arrival} {r : TunTcpSessionRecord} {frame : TunTcpClientPayloadFrame}
    (hdata : a.TakesData r frame) (hfin : a.segment.flags.fin = false) :
    tcpSegmentNextSequenceNumber a.segment = r.clientNextSequenceNumber ↔
      a.segment.payload.length % 2 ^ 32 = 0 := by
  obtain ⟨_, _, _, hsyn, _⟩ := acceptsClientData_iff.mp hdata.accepts
  have hnext := next_of_plain hsyn hfin
  have hbytes := hdata.bytes
  rw [← ofNat_eq_zero_iff]
  generalize frame.payload = bytes at hbytes
  cases hbytes with
  | inOrder hseq =>
    rw [hnext, hseq]
    constructor
    · intro h
      grind
    · intro h
      rw [h]
      grind
  | overlap _ hbef hafter =>
    constructor
    · intro h
      rw [h] at hafter
      exact absurd hafter (UInt32.lt_irrefl _)
    · intro h
      have hback : r.clientNextSequenceNumber < a.segment.sequenceNumber := by
        simpa [hnext, h] using hafter
      exact absurd (UInt32.lt_trans hbef hback) (UInt32.lt_irrefl _)

theorem LeftBy.same_iff {a : Arrival} {r r' : TunTcpSessionRecord} (h : LeftBy a r r') :
    SameSession r r' ↔ Harmless a r := by
  cases h with
  | opening hph hph' =>
    refine iff_of_false (fun h => ?_) fun h => h.opened hph
    have hsame := h.phase
    rw [hph, hph'] at hsame
    cases hsame
  | writing hdata hfin =>
    have hph := acceptsClientData_established hdata.accepts
    have hnext := takesData_next_iff hdata hfin
    have hunack := clear_same_iff a.segment r
    constructor
    · intro h
      exact ⟨by simp [hph], .inr ⟨hfin, hnext.mp h.clientNext⟩, hunack.mp h.unacked⟩
    · intro h
      have hlen := (h.nothingTaken.resolve_left (by simp [hph])).2
      exact ⟨taken_phase .., hnext.mpr hlen, clear_serverNext .., hunack.mpr h.nothingDropped⟩
  | finishing hfin hacpt =>
    obtain ⟨hph, _⟩ := acceptsClientFin_iff.mp hacpt
    obtain ⟨_, hflag, _⟩ := isClientFin_iff.mp hfin
    refine iff_of_false (fun h => ?_) fun h => ?_
    · have hsame := h.phase.trans hph
      cases hsame
    · have htaken := h.nothingTaken
      simp [hph, hflag] at htaken
  | listening hquiet =>
    have hunack := clear_same_iff a.segment r
    refine ⟨fun h => ⟨?_, ?_, hunack.mp h.unacked⟩, fun h => ⟨clear_phase .., clear_clientNext ..,
      clear_serverNext .., hunack.mpr h.nothingDropped⟩⟩
    · rcases hquiet with hph | ⟨_, hacpt⟩
      · simp [hph]
      · intro hph
        rw [hph] at hacpt
        cases hacpt
    · refine hquiet.imp_right fun ⟨hack, _⟩ => ?_
      obtain ⟨_, _, _, hfin, hpay⟩ := isPureAck_iff.mp hack
      exact ⟨hfin, by rw [hpay]; rfl⟩

theorem connectedAfter_of_silent {key : TunTcpSessionKey} {connected : Bool} {calls : List RelayEvent}
    (hestablish : .establish ∉ callKinds calls) (hclose : .close ∉ callKinds calls) :
    connectedAfter key connected calls = connected := by
  induction calls with
  | nil => rfl
  | cons ev calls ih =>
    simp only [callKinds, map_cons, mem_cons, not_or] at hestablish hclose
    have hev : ev.connects key connected = connected := by
      cases ev with
      | establish => exact absurd rfl hestablish.1
      | close => exact absurd rfl hclose.1
      | _ => exact ite_self _
    rw [connectedAfter, foldl_cons, hev]
    exact ih hestablish.2 hclose.2

/-- What a failed step should leave: no session, or the session as it was and connected if it is
established. -/
structure FailsAtomically (key : TunTcpSessionKey) (earlier : List Entry) (entry : Entry) : Prop where
  record : ∀ r', entry.after.sessions.lookup key = some r' →
    ∃ r, entry.before.sessions.lookup key = some r ∧ SameSession r r'
  connected : ∀ r', entry.after.sessions.lookup key = some r' → r'.phase = .established →
    connectedAfter key false (callsOf key (earlier ++ [entry])) = true
  written : ∀ r r', entry.before.sessions.lookup key = some r →
    entry.after.sessions.lookup key = some r' →
    r'.clientNextSequenceNumber = r.clientNextSequenceNumber ∨
      ∀ frame result, .write frame result ∈ entry.callsOf key → result = .ok ()

theorem failsAtomically_iff {key : TunTcpSessionKey} {a : Arrival} {earlier : List Entry}
    {entry : Entry} {r r' : TunTcpSessionRecord} {packets : List Bytes}
    (hbef : entry.before.sessions.lookup key = some r)
    (hafter : entry.after.sessions.lookup key = some r')
    (hrun : FlowRun key a .start (.active r) (entry.callsOf key) packets .failed (.active r'))
    (hleft : LeftBy a r r') :
    FailsAtomically key earlier entry ↔ Harmless a r ∧
      (r.phase = .established → connectedAfter key false (callsOf key earlier) = true) := by
  -- A session past its handshake is neither connected nor closed by the step.
  have hconn : r.phase ≠ .synReceived →
      connectedAfter key false (callsOf key (earlier ++ [entry])) =
        connectedAfter key false (callsOf key earlier) := by
    intro hph
    have hestablish : .establish ∉ callKinds (entry.callsOf key) := by
      cases hrun.connects with
      | never hcalls => exact hcalls
      | once _ _ hhandshake =>
        obtain ⟨_, heq, hph'⟩ := hhandshake
        cases heq
        exact absurd hph' hph
    have hclose : .close ∉ callKinds (entry.callsOf key) := by
      rcases hrun.closes with ⟨hcalls, _⟩ | ⟨_, hnone, _⟩
      · exact hcalls
      · cases hnone
    rw [callsOf_append, connectedAfter_append, connectedAfter_of_silent hestablish hclose]
  constructor
  · intro h
    obtain ⟨r₀, hr₀, hsame⟩ := h.record r' hafter
    obtain rfl := Option.some.inj (hbef.symm.trans hr₀)
    have hharmless := hleft.same_iff.mp hsame
    refine ⟨hharmless, fun hph => ?_⟩
    rw [← hconn hharmless.opened]
    exact h.connected r' hafter (hsame.phase.trans hph)
  · rintro ⟨hharmless, hopen⟩
    have hsame := hleft.same_iff.mpr hharmless
    refine ⟨fun r₁ hr₁ => ?_, fun r₁ hr₁ hph => ?_, fun r₀ r₁ hr₀ hr₁ => .inl ?_⟩
    · obtain rfl := Option.some.inj (hafter.symm.trans hr₁)
      exact ⟨r, hbef, hsame⟩
    · obtain rfl := Option.some.inj (hafter.symm.trans hr₁)
      rw [hconn hharmless.opened]
      exact hopen (hsame.phase.symm.trans hph)
    · obtain rfl := Option.some.inj (hafter.symm.trans hr₁)
      obtain rfl := Option.some.inj (hbef.symm.trans hr₀)
      exact hsame.clientNext

/-- A step that fails at the relay is atomic exactly when its segment is harmless to the session and
that is connected. -/
theorem failed_step_atomic_iff {ρ : Type} (relay : TunTcpSessionRelay ρ) (maxActiveSessions : ℕ)
    (relayState : ρ) (inputs : List Input) (a : Arrival) {key : TunTcpSessionKey} {message : String}
    {event : RelayEvent} (hkey : TunTcpSessionKey.fromFlow a.segment.flow = .ok key)
    (hres : ((execute relay maxActiveSessions relayState inputs).react relay (.segment a)).1.result =
      some (.error (.relay message)))
    (hev : event ∈ ((execute relay maxActiveSessions relayState inputs).react relay
      (.segment a)).1.callsOf key)
    (hfail : event.failed = true) (hkind : event.kind ≠ .close) :
    let e := execute relay maxActiveSessions relayState inputs
    ∃ r, e.table.sessions.lookup key = some r ∧
      (FailsAtomically key e.trace (e.react relay (.segment a)).1 ↔ Harmless a r ∧
        (r.phase = .established → connectedAfter key false (callsOf key e.trace) = true)) := by
  have hinv : (execute relay maxActiveSessions relayState inputs).table.Inv := execute_inv inputs
  generalize execute relay maxActiveSessions relayState inputs = e at *
  obtain ⟨state, hat, hwf⟩ := hinv.flows key
  obtain ⟨control, state', calls, packets, hpos, heffect, hreports⟩ :=
    process_refines relay hkey (position_start hinv hat)
  have herr : (processTunTcpSessionSegmentWithRelayPlan relay.recording a.segment a.relayPlan a.now
      a.serverInitialSequenceNumber a.windowSize (e.table, e.relayState, [])).1 =
      .error (.relay message) := Option.some.inj hres
  rw [herr] at hreports
  obtain rfl : control = .failed := hreports
  have hlog : (e.react relay (.segment a)).1.calls = calls := hpos.log
  cases heffect with
  | run hrun =>
    have hcalls : (e.react relay (.segment a)).1.callsOf key = calls := by
      rw [Entry.callsOf, hlog, List.filter_eq_self]
      exact fun event hev => decide_eq_true ((hrun.keyed hwf.keyed).1 event hev)
    obtain ⟨r, r', rfl, rfl, hleft⟩ := hrun.leftBy (hcalls ▸ hev) hfail hkind
    exact ⟨r, hat.session, failsAtomically_iff hat.session hpos.at_key.session (hcalls ▸ hrun) hleft⟩

def deafRelay : TunTcpSessionRelay (List TunTcpServerRead) :=
  { scriptedRelay (.ok ()) with
    pollServerEvent := fun _ replies => (.error "connection reset", replies) }

def openingClient : List Input :=
  [clientSegment 100 0 0x0002 [], clientSegment 101 8 0x0010 []].map fun segment =>
    .segment (.ofClient 7 segment)

def openedSession : TunTcpSessionRecord :=
  ⟨clientKey, clientFlow, 100, 101, 7, 8, none, 0x4000, .established, 0⟩

/-- The poll after a repeated acknowledgment fails and leaves the session as it was. -/
theorem failed_step_atomic_iff_polling :
    let e := execute deafRelay 4 [] openingClient
    let entry := (e.react deafRelay (.segment (.ofClient 7 (clientSegment 101 8 0x0010 [])))).1
    entry.result = some (.error (.relay "connection reset")) ∧
      FailsAtomically clientKey e.trace entry := by
  intro e entry
  have hres : entry.result = some (.error (.relay "connection reset")) := by decide
  have hmem : .poll openedSession (.error "connection reset") ∈ entry.callsOf clientKey :=
    List.mem_singleton_self _
  have hbef : e.table.sessions.lookup clientKey = some openedSession := by decide
  obtain ⟨r, hr, hiff⟩ := failed_step_atomic_iff deafRelay 4 [] openingClient
    (.ofClient 7 (clientSegment 101 8 0x0010 [])) fromFlow_clientFlow hres hmem
    rfl nofun
  obtain rfl := Option.some.inj (hbef.symm.trans hr)
  have hconn : connectedAfter clientKey false (callsOf clientKey e.trace) = true := by decide
  exact ⟨hres, hiff.mpr ⟨⟨nofun, .inr ⟨by decide, rfl⟩, .inl rfl⟩, fun _ => hconn⟩⟩

/-- A connect that is refused leaves the session established, with no connection behind it. -/
theorem refused_connect_leaves_established :
    let relay := scriptedRelay (.error "connection refused")
    let e := execute relay 4 [] [.segment (.ofClient 7 (clientSegment 100 0 0x0002 []))]
    let entry := (e.react relay (.segment (.ofClient 7 (clientSegment 101 8 0x0010 [])))).1
    entry.result = some (.error (.relay "connection refused")) ∧
    callKinds (entry.callsOf clientKey) = [.establish] ∧
    (entry.before.sessions.lookup clientKey).map (·.phase) = some .synReceived ∧
    (entry.after.sessions.lookup clientKey).map (·.phase) = some .established ∧
    connectedAfter clientKey false (callsOf clientKey (e.trace ++ [entry])) = false ∧
    ¬FailsAtomically clientKey e.trace entry := by
  intro relay e entry
  have hph : (entry.after.sessions.lookup clientKey).map (·.phase) = some .established := by decide
  have hconn : connectedAfter clientKey false (callsOf clientKey (e.trace ++ [entry])) = false := by
    decide
  refine ⟨by decide, by decide, by decide, hph, hconn, fun h => ?_⟩
  obtain ⟨r, hr, hest⟩ := Option.map_eq_some_iff.mp hph
  have hopen := h.connected r hr hest
  rw [hconn] at hopen
  cases hopen

end KeliNative.Tun
