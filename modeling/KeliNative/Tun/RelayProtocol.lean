import KeliNative.Tun.Runs
import KeliNative.Tun.Script

/-!
# The relay's calling protocol

A connect first, then writes and reads, possibly one half-close, and one close at the end.
-/

namespace KeliNative.Tun
open TunTcpSessionTable List RelayEvent

inductive CallKind where
  | establish
  | write
  | shutdown
  | read
  | poll
  | close
  deriving DecidableEq

def RelayEvent.kind : RelayEvent → CallKind
  | .establish _ _ _ => .establish
  | .write _ _ => .write
  | .shutdown _ _ => .shutdown
  | .read _ _ => .read
  | .poll _ _ => .poll
  | .close _ _ => .close

def callKinds (calls : List RelayEvent) : List CallKind := calls.map RelayEvent.kind

@[simp] theorem callKinds_nil : callKinds [] = [] := rfl

theorem callKinds_append (calls calls' : List RelayEvent) :
    callKinds (calls ++ calls') = callKinds calls ++ callKinds calls' := map_append

def Talks (word : List CallKind) : Prop :=
  ∀ kind ∈ word, kind = .write ∨ kind = .read ∨ kind = .poll

def Listens (word : List CallKind) : Prop := ∀ kind ∈ word, kind = .read ∨ kind = .poll

inductive OpenWord : List CallKind → Prop where
  | talking {talk : List CallKind} (htalk : Talks talk) : OpenWord (.establish :: talk)
  | halfClosed {talk listen : List CallKind} (htalk : Talks talk) (hlisten : Listens listen) :
      OpenWord (.establish :: talk ++ .shutdown :: listen)

/-- The calls of a session: none or those of an open one, and at most one close at the end. -/
inductive SessionWord : List CallKind → Prop where
  | silent : SessionWord []
  | opened {word : List CallKind} (h : OpenWord word) : SessionWord word
  | refused : SessionWord [.close]
  | closed {word : List CallKind} (h : OpenWord word) : SessionWord (word ++ [.close])

theorem Listens.talks {word : List CallKind} (h : Listens word) : Talks word :=
  fun kind hmem => .inr (h kind hmem)

theorem Talks.append {word word' : List CallKind} (h : Talks word) (h' : Talks word') :
    Talks (word ++ word') := by
  intro kind hmem
  rcases mem_append.mp hmem with hmem | hmem
  · exact h kind hmem
  · exact h' kind hmem

theorem Listens.append {word word' : List CallKind} (h : Listens word) (h' : Listens word') :
    Listens (word ++ word') := by
  intro kind hmem
  rcases mem_append.mp hmem with hmem | hmem
  · exact h kind hmem
  · exact h' kind hmem

theorem OpenWord.listen {word more : List CallKind} (h : OpenWord word) (hmore : Listens more) :
    OpenWord (word ++ more) := by
  cases h with
  | talking htalk => exact .talking (htalk.append hmore.talks)
  | halfClosed htalk hlisten =>
    rw [append_assoc]
    exact .halfClosed htalk (hlisten.append hmore)

def Spoken : FlowState → List CallKind → Prop
  | .active r, word =>
    match r.phase with
    | .synReceived => word = []
    | .established => ∃ talk, Talks talk ∧ word = .establish :: talk
    | .clientFinReceived => OpenWord word
  | _, word => SessionWord word

section

variable {r r' : TunTcpSessionRecord} {word more : List CallKind}

theorem spoken_handshake (hph : r.phase = .synReceived) :
    Spoken (.active r) word ↔ word = [] := by
  simp only [Spoken, hph]

theorem spoken_established (hph : r.phase = .established) :
    Spoken (.active r) word ↔ ∃ talk, Talks talk ∧ word = .establish :: talk := by
  simp only [Spoken, hph]

theorem spoken_finished (hph : r.phase = .clientFinReceived) :
    Spoken (.active r) word ↔ OpenWord word := by
  simp only [Spoken, hph]

theorem spoken_of_phase (hph : r'.phase = r.phase) :
    Spoken (.active r') word ↔ Spoken (.active r) word := by
  simp only [Spoken, hph]

theorem Spoken.openWord (h : Spoken (.active r) word)
    (hph : tunTcpPhaseAcceptsServerResponse r.phase = true) : OpenWord word := by
  cases hp : r.phase with
  | synReceived =>
    rw [hp] at hph
    cases hph
  | established =>
    obtain ⟨talk, htalk, rfl⟩ := (spoken_established hp).mp h
    exact .talking htalk
  | clientFinReceived => exact (spoken_finished hp).mp h

theorem Spoken.listen (h : Spoken (.active r) word)
    (hph : tunTcpPhaseAcceptsServerResponse r.phase = true) (hmore : Listens more) :
    Spoken (.active r) (word ++ more) := by
  cases hp : r.phase with
  | synReceived =>
    rw [hp] at hph
    cases hph
  | established =>
    obtain ⟨talk, htalk, rfl⟩ := (spoken_established hp).mp h
    exact (spoken_established hp).mpr ⟨talk ++ more, htalk.append hmore.talks, rfl⟩
  | clientFinReceived => exact (spoken_finished hp).mpr (((spoken_finished hp).mp h).listen hmore)

theorem Spoken.close (h : Spoken (.active r) word) : SessionWord (word ++ [.close]) := by
  cases hp : r.phase with
  | synReceived =>
    rw [(spoken_handshake hp).mp h]
    exact .refused
  | established => exact .closed (h.openWord (by rw [hp]; rfl))
  | clientFinReceived => exact .closed (h.openWord (by rw [hp]; rfl))

theorem Spoken.sessionWord {state : FlowState} (h : Spoken state word) : SessionWord word := by
  cases state with
  | active r =>
    cases hp : r.phase with
    | synReceived =>
      rw [(spoken_handshake hp).mp h]
      exact .silent
    | established => exact .opened (h.openWord (by rw [hp]; rfl))
    | clientFinReceived => exact .opened (h.openWord (by rw [hp]; rfl))
  | _ => exact h

end

section

variable {key : TunTcpSessionKey} {a : Arrival} {control c' : Control}
  {state state' : FlowState} {calls : List RelayEvent} {packets : List Bytes}
  {word : List CallKind}

theorem readCall_listens {r : TunTcpSessionRecord} {res : Except String TunTcpServerRead}
    {ev : RelayEvent} (h : ReadCall r res control ev) : Listens [ev.kind] := by
  cases h <;> simp [Listens, kind]

theorem finCalls_openWord {r : TunTcpSessionRecord} {pkt : Bytes} {res : Except String Unit}
    {talk : List CallKind} (htalk : Talks talk) (h : a.FinCalls r pkt calls res) :
    OpenWord (.establish :: talk ++ callKinds calls) := by
  have hwrite : Talks [.write] := by simp [Talks]
  have hnone : Listens [] := by simp [Listens]
  cases h with
  | writeFailed => exact .talking (htalk.append hwrite)
  | payload =>
    have hword := OpenWord.halfClosed (htalk.append hwrite) hnone
    simpa [callKinds, kind] using hword
  | bare => exact .halfClosed htalk hnone

theorem FlowStep.spoken (step : FlowStep key a control state calls packets c' state')
    (h : Spoken state word) : Spoken state' (word ++ callKinds calls) := by
  cases step with
  | opened hopens =>
    rw [(spoken_handshake hopens.phase).mp h]
    exact (spoken_established rfl).mpr ⟨[], by simp [Talks], rfl⟩
  | wrote _ hdata =>
    have hph := acceptsClientData_established hdata.accepts
    obtain ⟨talk, htalk, rfl⟩ := (spoken_established hph).mp h
    refine (spoken_established ((taken_phase ..).trans hph)).mpr ⟨talk ++ [.write], ?_, rfl⟩
    exact htalk.append (by simp [Talks])
  | finTaken _ hacpt _ hcalls =>
    obtain ⟨hph, _⟩ := acceptsClientFin_iff.mp hacpt
    obtain ⟨talk, htalk, rfl⟩ := (spoken_established hph).mp h
    exact (spoken_finished rfl).mpr (finCalls_openWord htalk hcalls)
  | readFailed hph _ hcall | readNothing hph hcall | oversized hph hcall =>
    exact h.listen hph (readCall_listens hcall)
  | sent hph hcall =>
    exact (spoken_of_phase rfl).mpr (h.listen hph (readCall_listens hcall))
  | @closedByServer _ _ ev _ hph hcall _ res =>
    have hword := (h.listen hph (readCall_listens hcall)).close
    rwa [append_assoc] at hword
  | removedByFin | removedByRst => exact h.close
  | synAckAgain | touched | retransmitted =>
    rw [callKinds_nil, append_nil]
    exact (spoken_of_phase rfl).mpr h
  | ackedData | polled | clientAcked | finAgain =>
    rw [callKinds_nil, append_nil]
    exact (spoken_of_phase (clear_phase ..)).mpr h
  | markerReset =>
    rw [callKinds_nil, append_nil]
    exact h.sessionWord
  | _ =>
    rw [callKinds_nil, append_nil]
    exact h

theorem FlowRun.spoken (run : FlowRun key a control state calls packets c' state')
    (h : Spoken state word) : Spoken state' (word ++ callKinds calls) := by
  induction run with
  | refl =>
    rw [callKinds_nil, append_nil]
    exact h
  | step run step ih =>
    have hword := step.spoken (ih h)
    rwa [append_assoc, ← callKinds_append] at hword

def FlowState.Handshake (state : FlowState) : Prop :=
  ∃ r, state = .active r ∧ r.phase = .synReceived

def FlowState.Opened : FlowState → Prop
  | .active r => r.phase = .established
  | .serverClosed c => c.response.session.phase = .established
  | _ => False

def FlowState.Gone (state : FlowState) : Prop := state.session = none ∧ state.closed = none

theorem FlowState.Handshake.not_opened (h : state.Handshake) : ¬state.Opened := by
  obtain ⟨r, rfl, hph⟩ := h
  simp [FlowState.Opened, hph]

theorem FlowState.Gone.not_opened (h : state.Gone) : ¬state.Opened := by
  obtain ⟨hsess, hclosed⟩ := h
  cases state with
  | active r => cases hsess
  | serverClosed c => cases hclosed
  | _ => exact id

theorem FlowStep.establishes (step : FlowStep key a control state calls packets c' state') :
    CallKind.establish ∉ callKinds calls ∨ control = .start ∧ state.Handshake ∧ state'.Opened ∧
      (callKinds calls).count .establish = 1 := by
  cases step with
  | opened hopens => exact .inr ⟨rfl, ⟨_, rfl, hopens.phase⟩, rfl, rfl⟩
  | finTaken _ _ _ hcalls => exact .inl (by cases hcalls <;> simp [callKinds, kind])
  | readFailed _ _ hcall | readNothing _ hcall | oversized _ hcall | sent _ hcall
  | closedByServer _ hcall => exact .inl (by cases hcall <;> simp [callKinds, kind])
  | _ => exact .inl (by simp [callKinds, kind])

theorem FlowStep.handshake (step : FlowStep key a control state calls packets c' state')
    (hst : state.Handshake) (hcalls : CallKind.establish ∉ callKinds calls) :
    state'.Handshake ∨ state'.Gone := by
  obtain ⟨r, rfl, hph⟩ := hst
  cases step with
  | synAckAgain | touched => exact .inl ⟨_, rfl, hph⟩
  | opened => simp [callKinds, kind] at hcalls
  | removedByFin | removedByRst => exact .inr ⟨rfl, rfl⟩
  | wrote _ hdata => cases hph.symm.trans (acceptsClientData_established hdata.accepts)
  | ackedData _ hacpt => cases hph.symm.trans (acceptsClientData_established hacpt)
  | finTaken _ hacpt => cases hph.symm.trans (acceptsClientFin_iff.mp hacpt).1
  | finAgain _ hfin => cases hph.symm.trans hfin
  | retransmitted hacpt | polled _ hacpt | clientAcked _ _ hacpt | readFailed hacpt
  | readNothing hacpt | oversized hacpt | sent hacpt | closedByServer hacpt =>
    rw [hph] at hacpt
    cases hacpt
  | markerReset hnone | reset hnone => cases hnone

inductive Connects (state : FlowState) (calls : List RelayEvent) (c' : Control)
    (state' : FlowState) : Prop where
  | never (hcalls : CallKind.establish ∉ callKinds calls)
      (hst : state.Handshake → state'.Handshake ∨ state'.Gone)
  | once (hcalls : (callKinds calls).count .establish = 1) (hctl : c' ≠ .start)
      (hst : state.Handshake) (hst' : state'.Opened)

theorem FlowRun.connects (run : FlowRun key a control state calls packets c' state') :
    Connects state calls c' state' := by
  induction run with
  | refl => exact .never (by simp) .inl
  | @step control₁ _ _ state₁ _ calls₁ calls₂ _ _ run step ih =>
    cases ih with
    | never hcalls hmid =>
      rcases step.establishes with hnot | ⟨rfl, hhandshake, hopn, hcnt⟩
      · refine .never ?_ fun hst => ?_
        · rw [callKinds_append, mem_append]
          exact not_or.mpr ⟨hcalls, hnot⟩
        · rcases hmid hst with hmid | hgone
          · exact step.handshake hmid hnot
          · by_cases hctl : control₁ = .start
            · subst hctl
              obtain ⟨_, _, rfl⟩ := run.start
              exact step.handshake hst hnot
            · obtain ⟨r, rfl, _⟩ := step.running hctl
              cases hgone.1
      · obtain ⟨rfl, _, rfl⟩ := run.start
        exact .once hcnt step.control_ne_start hhandshake hopn
    | once hcalls hctl hst hmid =>
      have hnot : CallKind.establish ∉ callKinds calls₂ :=
        step.establishes.resolve_right fun h => hctl h.1
      refine .once ?_ step.control_ne_start hst ?_
      · rw [callKinds_append, count_append, hcalls, count_eq_zero.mpr hnot]
      · obtain ⟨r, rfl, ⟨r', rfl, hph⟩ | ⟨c, rfl, hsess⟩⟩ := step.running hctl
        · exact hph.trans hmid
        · exact (congrArg TunTcpSessionRecord.phase hsess).trans hmid

theorem FlowStep.closes (step : FlowStep key a control state calls packets c' state') :
    (CallKind.close ∉ callKinds calls ∧ ∀ r, state = .active r → ∃ r', state' = .active r') ∨
    ((callKinds calls).count .close = 1 ∧ state'.session = none ∧ ∃ r, state = .active r) := by
  cases step with
  | removedByFin | removedByRst => exact .inr ⟨rfl, rfl, _, rfl⟩
  | closedByServer _ hcall =>
    exact .inr ⟨by cases hcall <;> rfl, rfl, _, rfl⟩
  | finTaken _ _ _ hcalls =>
    exact .inl ⟨by cases hcalls <;> simp [callKinds, kind], fun _ _ => ⟨_, rfl⟩⟩
  | readFailed _ _ hcall | readNothing _ hcall | oversized _ hcall | sent _ hcall =>
    exact .inl ⟨by cases hcall <;> simp [callKinds, kind], fun _ _ => ⟨_, rfl⟩⟩
  | markerReset hnone =>
    refine .inl ⟨by simp, ?_⟩
    rintro r rfl
    cases hnone
  | reset => exact .inl ⟨by simp, fun r hr => ⟨r, hr⟩⟩
  | closeAckedWithFin | closeRetransmitted | closeAcked | postFinAgain | postFin | postAcked =>
    exact .inl ⟨by simp, fun _ hr => nomatch hr⟩
  | _ => exact .inl ⟨by simp [callKinds, kind], fun _ _ => ⟨_, rfl⟩⟩

theorem FlowRun.closes (run : FlowRun key a control state calls packets c' state') :
    (CallKind.close ∉ callKinds calls ∧ ∀ r, state = .active r → ∃ r', state' = .active r') ∨
    ((callKinds calls).count .close = 1 ∧ state'.session = none ∧ c' ≠ .start) := by
  induction run with
  | refl => exact .inl ⟨by simp, fun r hr => ⟨r, hr⟩⟩
  | step run step ih =>
    rw [callKinds_append, mem_append, count_append]
    rcases ih with ⟨hcalls, hstays⟩ | ⟨hcnt, hleft, hctl⟩
    · rcases step.closes with ⟨hcalls', hstays'⟩ | ⟨hcnt, hleft, _⟩
      · refine .inl ⟨not_or.mpr ⟨hcalls, hcalls'⟩, fun r hr => ?_⟩
        obtain ⟨r', hr'⟩ := hstays r hr
        exact hstays' r' hr'
      · refine .inr ⟨?_, hleft, step.control_ne_start⟩
        rw [count_eq_zero.mpr hcalls, hcnt]
    · obtain ⟨r, rfl, _⟩ := step.running hctl
      cases hleft

end

/-- In this entry the phase of `key` changes from `SynReceived` to `Established`. -/
def Entry.Establishes (key : TunTcpSessionKey) (entry : Entry) : Prop :=
  (∃ r, entry.before.sessions.lookup key = some r ∧ r.phase = .synReceived) ∧
  ((∃ r, entry.after.sessions.lookup key = some r ∧ r.phase = .established) ∨
    ∃ c, entry.after.serverClosedSessions.lookup key = some c ∧
      c.response.session.phase = .established)

/-- The session of `key` is past the handshake when the entry's segment comes, or gets there. -/
def Entry.ReachedEstablished (key : TunTcpSessionKey) (entry : Entry) : Prop :=
  (∃ r, entry.before.sessions.lookup key = some r ∧
    tunTcpPhaseAcceptsServerResponse r.phase = true) ∨ entry.Establishes key

section

variable {key : TunTcpSessionKey} {entry : Entry} {state state' : FlowState}

theorem At.handshake_iff {table : TunTcpSessionTable} (h : table.At key state) :
    (∃ r, table.sessions.lookup key = some r ∧ r.phase = .synReceived) ↔ state.Handshake := by
  rw [h.session]
  simp only [FlowState.session_eq_some, FlowState.Handshake]

theorem At.opened_iff {table : TunTcpSessionTable} (h : table.At key state) :
    ((∃ r, table.sessions.lookup key = some r ∧ r.phase = .established) ∨
      ∃ c, table.serverClosedSessions.lookup key = some c ∧
        c.response.session.phase = .established) ↔ state.Opened := by
  rw [h.session, h.closed]
  cases state <;> simp [FlowState.Opened]

theorem establishes_iff (hbef : entry.before.At key state) (hafter : entry.after.At key state') :
    entry.Establishes key ↔ state.Handshake ∧ state'.Opened := by
  rw [Entry.Establishes, At.handshake_iff hbef, At.opened_iff hafter]

theorem accepts_of_ne_synReceived {phase : TunTcpSessionPhase} (h : phase ≠ .synReceived) :
    tunTcpPhaseAcceptsServerResponse phase = true := by
  cases phase with
  | synReceived => exact absurd rfl h
  | _ => rfl

theorem FlowRun.accepts {a : Arrival} {control c' : Control} {calls : List RelayEvent}
    {packets : List Bytes} {r r' : TunTcpSessionRecord}
    (run : FlowRun key a control (.active r) calls packets c' (.active r'))
    (h : tunTcpPhaseAcceptsServerResponse r.phase = true) :
    tunTcpPhaseAcceptsServerResponse r'.phase = true := by
  refine accepts_of_ne_synReceived fun hph => ?_
  obtain ⟨_, heq, hph', _⟩ := run.synReceived r' rfl hph
  cases heq
  rw [hph'] at h
  cases h

theorem FlowState.Opened.accepts {r : TunTcpSessionRecord} (h : (FlowState.active r).Opened) :
    tunTcpPhaseAcceptsServerResponse r.phase = true := by
  have hph : r.phase = .established := h
  rw [hph]
  rfl

section

variable (hbef : entry.before.At key state) (hafter : entry.after.At key state')
  (hmoves : Moves key entry state state')

include hbef hafter hmoves

theorem establish_iff :
    (.establish ∈ callKinds (entry.callsOf key) ↔ entry.Establishes key) ∧
      (callKinds (entry.callsOf key)).count .establish ≤ 1 := by
  rw [establishes_iff hbef hafter]
  suffices h : (state.Handshake ∧ state'.Opened ∧
      (callKinds (entry.callsOf key)).count .establish = 1) ∨
      (¬(state.Handshake ∧ state'.Opened) ∧ .establish ∉ callKinds (entry.callsOf key)) by
    rcases h with ⟨hst, hst', hcnt⟩ | ⟨hnot, hcalls⟩
    · have hmem := count_pos_iff.mp (by omega : 0 < (callKinds (entry.callsOf key)).count .establish)
      exact ⟨iff_of_true hmem ⟨hst, hst'⟩, hcnt.le⟩
    · exact ⟨iff_of_false hcalls hnot, by rw [count_eq_zero.mpr hcalls]; exact Nat.zero_le _⟩
  cases hmoves with
  | starts h =>
    refine .inr ⟨fun hopens => ?_, by rw [h.calls]; simp⟩
    cases hopens.2
  | continues h =>
    cases h with
    | idle hcalls => exact .inr ⟨fun hopens => hopens.1.not_opened hopens.2, by rw [hcalls]; simp⟩
    | pruned hcalls =>
      exact .inr ⟨fun hopens => hopens.2, by rw [hcalls]; simp [callKinds, kind]⟩
    | expired _ hcalls => exact .inr ⟨fun hopens => hopens.2, by rw [hcalls]; simp⟩
    | run _ _ hrun =>
      cases hrun.connects with
      | once hcalls _ hst hst' => exact .inl ⟨hst, hst', hcalls⟩
      | never hcalls hst =>
        refine .inr ⟨fun hopens => ?_, hcalls⟩
        rcases hst hopens.1 with hstays | hgone
        · exact hstays.not_opened hopens.2
        · exact hgone.not_opened hopens.2

theorem close_of_established (hreached : entry.ReachedEstablished key) :
    (∃ r, entry.after.sessions.lookup key = some r ∧
      tunTcpPhaseAcceptsServerResponse r.phase = true ∧
      .close ∉ callKinds (entry.callsOf key)) ∨
    entry.after.sessions.lookup key = none ∧ (callKinds (entry.callsOf key)).count .close = 1 := by
  rw [Entry.ReachedEstablished, establishes_iff hbef hafter, hbef.session] at hreached
  simp only [FlowState.session_eq_some] at hreached
  rw [hafter.session]
  cases hmoves with
  | starts h =>
    rcases hreached with ⟨r, hr, hacpt⟩ | ⟨_, hopn⟩
    · rw [(h.new r hr).1] at hacpt
      cases hacpt
    · cases hopn
  | continues h =>
    cases h with
    | idle hcalls =>
      rcases hreached with ⟨r, rfl, hacpt⟩ | ⟨hhandshake, hopn⟩
      · exact .inl ⟨r, rfl, hacpt, by rw [hcalls]; simp⟩
      · exact absurd hopn hhandshake.not_opened
    | pruned hcalls => exact .inr ⟨rfl, by rw [hcalls]; rfl⟩
    | expired hmarker =>
      rcases hreached with ⟨r, rfl, _⟩ | ⟨_, hopn⟩
      · cases hmarker
      · cases hopn
    | run _ _ hrun =>
      rcases hrun.closes with ⟨hcalls, hstays⟩ | ⟨hcnt, hleft, _⟩
      · refine .inl ?_
        rcases hreached with ⟨r, rfl, hacpt⟩ | ⟨⟨r, rfl, _⟩, hopn⟩
        · obtain ⟨r', rfl⟩ := hstays r rfl
          exact ⟨r', rfl, hrun.accepts hacpt, hcalls⟩
        · obtain ⟨r', rfl⟩ := hstays r rfl
          exact ⟨r', rfl, hopn.accepts, hcalls⟩
      · exact .inr ⟨hleft, hcnt⟩

end

end

/-- The calls of an incarnation form a word of the session language, with one connect and one close
in their places. -/
theorem relay_call_protocol {ρ : Type} (relay : TunTcpSessionRelay ρ) (maxActiveSessions : ℕ)
    (relayState : ρ) (key : TunTcpSessionKey) (inputs : List Input) :
    let trace := (execute relay maxActiveSessions relayState inputs).trace
    SessionWord (callKinds (callsOf key (incarnation key trace))) ∧
    ∀ entry ∈ trace,
      (.establish ∈ callKinds (entry.callsOf key) ↔ entry.Establishes key) ∧
      (callKinds (entry.callsOf key)).count .establish ≤ 1 ∧
      (entry.ReachedEstablished key →
        (∃ r, entry.after.sessions.lookup key = some r ∧
          tunTcpPhaseAcceptsServerResponse r.phase = true ∧
          .close ∉ callKinds (entry.callsOf key)) ∨
        entry.after.sessions.lookup key = none ∧
          (callKinds (entry.callsOf key)).count .close = 1) := by
  intro trace
  constructor
  · have hrun := execute_induction relay maxActiveSessions relayState key (fun _ => True)
      (fun _ state entries => Spoken state (callKinds (callsOf key entries))) ?_ ?_ inputs
      (fun _ _ => trivial)
    · rcases hrun with ⟨hempty, _⟩ | ⟨_, _, _, _, hspoken⟩
      · have hword : incarnation key trace = [] := hempty
        rw [hword]
        exact .silent
      · exact hspoken.sessionWord
    · intro a state entry _ hstarts
      rw [spoken_handshake rfl]
      simp [callsOf, hstarts.calls]
    · intro a state state' entries entry _ _ _ _ hcont hspoken
      rw [callsOf_append, callKinds_append]
      cases hcont with
      | idle hcalls =>
        rw [hcalls, callKinds_nil, List.append_nil]
        exact hspoken
      | run _ _ hrun => exact hrun.spoken hspoken
      | pruned hcalls =>
        rw [hcalls]
        exact hspoken.close
      | expired _ hcalls =>
        rw [hcalls, callKinds_nil, List.append_nil]
        exact hspoken.sessionWord
  · intro entry hentry
    obtain ⟨_, state, state', hbef, hafter, hmoves⟩ := execute_moves hentry key
    obtain ⟨hest, hcnt⟩ := establish_iff hbef hafter hmoves
    exact ⟨hest, hcnt, close_of_established hbef hafter hmoves⟩

/-- A client that opens a session, sends a byte and then its `FIN`; the server closes after it. -/
def closingClient : List Input :=
  [clientSegment 100 0 0x0002 [], clientSegment 101 8 0x0010 [], clientSegment 101 8 0x0018 [1],
    clientSegment 102 8 0x0011 []].map fun segment => .segment (.ofClient 7 segment)

theorem relay_call_protocol_closing :
    let trace := (execute (scriptedRelay (.ok ())) 4 [.noPayload, .closed] closingClient).trace
    callKinds (callsOf clientKey (incarnation clientKey trace)) =
      [.establish, .write, .read, .shutdown, .read, .close] ∧
    SessionWord [.establish, .write, .read, .shutdown, .read, .close] ∧
    ∀ entry ∈ trace, (callKinds (entry.callsOf clientKey)).count .establish ≤ 1 := by
  have h := relay_call_protocol (scriptedRelay (.ok ())) 4 [.noPayload, .closed] clientKey
    closingClient
  have hword : callKinds (callsOf clientKey (incarnation clientKey
      (execute (scriptedRelay (.ok ())) 4 [.noPayload, .closed] closingClient).trace)) =
      [.establish, .write, .read, .shutdown, .read, .close] := by decide
  refine ⟨hword, ?_, fun entry hentry => (h.2 entry hentry).2.1⟩
  rw [← hword]
  exact h.1

end KeliNative.Tun
