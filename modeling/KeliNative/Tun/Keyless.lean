import KeliNative.Tun.FlowMachine

/-!
# Flows without a key

A flow without TCP or without ports has no key, and every operation on it is inert.
-/

namespace KeliNative.Tun
open TunTcpSessionTable Program

section

variable {α : Type} {segment : TunTcpSegment} {error : TunPacketError}

def Inert (operation : TableProgram (Option α)) : Prop :=
  ∀ table, operation table = (.ok none, table) ∨ ∃ error, operation table = (.error error, table)

theorem inert_none : Inert (Program.pure none : TableProgram (Option α)) :=
  fun _ => .inl rfl

variable {flow : TunPacketFlow}

section

variable (hbad : TunTcpSessionKey.fromFlow flow = .error error)

include hbad

theorem inert_withSession {body : Program TunTcpSessionRecord TunPacketError (Option α)} :
    Inert (withSession flow body) := by
  intro table
  simp only [withSession, hbad]
  exact .inr ⟨error, rfl⟩

theorem inert_withServerClosed {body : Program TunTcpServerClosedSession TunPacketError (Option α)}
    : Inert (withServerClosed flow body) := by
  intro table
  simp only [withServerClosed, hbad]
  exact .inr ⟨error, rfl⟩

theorem inert_withPostClosed {body : Program TunTcpPostCloseSession TunPacketError (Option α)} :
    Inert (withPostClosed flow body) := by
  intro table
  simp only [withPostClosed, hbad]
  exact .inr ⟨error, rfl⟩

end

theorem inert_ite {condition : Prop} [Decidable condition] {operation : TableProgram (Option α)}
    (h : Inert operation) : Inert (if condition then Program.pure none else operation) := by
  split
  · exact inert_none
  · exact h

variable (hbad : TunTcpSessionKey.fromFlow segment.flow = .error error) (now : Instant)

include hbad

theorem acknowledgeRetransmittedSyn_inert : Inert (acknowledgeRetransmittedSyn segment now) :=
  inert_ite (inert_withSession hbad)

theorem retransmitServerPayload_inert : Inert (retransmitServerPayload segment now) :=
  inert_ite (inert_withSession hbad)

theorem retransmitServerPayloadForDuplicateClientFin_inert :
    Inert (retransmitServerPayloadForDuplicateClientFin segment now) :=
  inert_ite (inert_withSession hbad)

theorem acceptClientFinWithPayload_inert : Inert (acceptClientFinWithPayload segment now) :=
  inert_ite (inert_withSession hbad)

theorem acknowledgeClientFin_inert : Inert (acknowledgeClientFin segment now) :=
  inert_ite (inert_withSession hbad)

theorem acknowledgeDuplicateClientFin_inert : Inert (acknowledgeDuplicateClientFin segment now) :=
  inert_ite (inert_withSession hbad)

theorem serverPayloadPollSession_inert : Inert (serverPayloadPollSession segment now) :=
  inert_ite (inert_withSession hbad)

theorem acknowledgeClientAck_inert : Inert (acknowledgeClientAck segment now) :=
  inert_ite (inert_withSession hbad)

theorem retransmitServerClose_inert : Inert (retransmitServerClose segment now) :=
  inert_ite (inert_withServerClosed hbad)

theorem retransmitServerCloseForDuplicateClientFin_inert :
    Inert (retransmitServerCloseForDuplicateClientFin segment now) :=
  inert_ite (inert_withServerClosed hbad)

theorem acknowledgePostCloseAck_inert : Inert (acknowledgePostCloseAck segment now) :=
  inert_ite (inert_withPostClosed hbad)

theorem acknowledgePostCloseClientFin_inert : Inert (acknowledgePostCloseClientFin segment now) :=
  inert_ite (inert_withPostClosed hbad)

theorem acknowledgeServerClose_inert : Inert (acknowledgeServerClose segment now) := by
  intro table
  unfold acknowledgeServerClose
  split
  · exact .inl rfl
  · exact .inr ⟨error, by rw [hbad]⟩

theorem acknowledgeServerCloseWithClientFin_inert :
    Inert (acknowledgeServerCloseWithClientFin segment now) := by
  intro table
  unfold acknowledgeServerCloseWithClientFin
  split
  · exact .inl rfl
  · exact .inr ⟨error, by rw [hbad]⟩

theorem removeServerCloseOnRst_inert : Inert (removeServerCloseOnRst segment) := by
  intro table
  unfold removeServerCloseOnRst
  split
  · exact .inl rfl
  · exact .inr ⟨error, by rw [hbad]⟩

theorem removePostCloseOnRst_inert : Inert (removePostCloseOnRst segment) := by
  intro table
  unfold removePostCloseOnRst
  split
  · exact .inl rfl
  · exact .inr ⟨error, by rw [hbad]⟩

theorem removeOnClose_inert : Inert (removeOnClose segment now) := by
  intro table
  unfold removeOnClose
  split
  · exact .inl rfl
  · exact .inr ⟨error, by rw [hbad]⟩

end

section

variable {ρ : Type}

/-- The program leaves the table and the relay as they are and answers nothing. -/
def Still (program : SessionProgram ρ TunTcpSessionStep) : Prop :=
  ∀ s, (program s).2 = s ∧ ∀ step, (program s).1 = .ok step → step.responsePackets = []

theorem still_noop : Still (Program.pure .noop : SessionProgram ρ TunTcpSessionStep) := by
  refine fun s => ⟨rfl, ?_⟩
  rintro step ⟨⟩
  rfl

theorem not_ok_of_error {out : Except TunTcpSessionError TunTcpSessionStep}
    {error : TunTcpSessionError} (h : out = .error error) (step : TunTcpSessionStep)
    (hok : out = .ok step) : step.responsePackets = [] := by
  rw [h] at hok
  cases hok

theorem still_ite {condition : Prop} [Decidable condition]
    {prog program' : SessionProgram ρ TunTcpSessionStep} (h : Still prog)
    (h' : Still program') : Still (if condition then prog else program') := by
  split
  · exact h
  · exact h'

variable {next : SessionProgram ρ TunTcpSessionStep}

theorem still_ifLet {β : Type} {operation : TableProgram (Option β)}
    {found : β → SessionProgram ρ TunTcpSessionStep} (h : Inert operation) (hnext : Still next) :
    Still (ifLet (onTable operation) found next) := by
  intro s
  unfold ifLet Program.bind onTable
  rcases h s.1 with hrun | ⟨error, hrun⟩
  · simp only [hrun]
    exact hnext s
  · simp only [hrun]
    exact ⟨rfl, not_ok_of_error rfl⟩

theorem still_bind_ifLet {β γ : Type} {operation : TableProgram (Option β)}
    {found : β → SessionProgram ρ γ} {none : γ} {next : γ → SessionProgram ρ TunTcpSessionStep}
    (h : Inert operation) (hnext : Still (next none)) :
    Still (Program.bind (ifLet (onTable operation) found (Program.pure none)) next) := by
  intro s
  unfold ifLet Program.bind onTable
  rcases h s.1 with hrun | ⟨error, hrun⟩
  · simp only [hrun]
    exact hnext s
  · simp only [hrun]
    exact ⟨rfl, not_ok_of_error rfl⟩

theorem still_getFlow {flow : TunPacketFlow} {error : TunPacketError}
    {found : TunTcpSessionRecord → SessionProgram ρ TunTcpSessionStep}
    (hbad : TunTcpSessionKey.fromFlow flow = .error error) :
    Still (ifLet (onTable (getFlow flow)) found next) := by
  intro s
  simp only [ifLet, Program.bind, onTable, getFlow, hbad]
  exact ⟨rfl, not_ok_of_error rfl⟩

variable (relay : TunTcpSessionRelay ρ) (a : Arrival) {error : TunPacketError}
  (hbad : TunTcpSessionKey.fromFlow a.segment.flow = .error error)

include hbad

theorem still_processClosingSegment : Still (processClosingSegment relay a.segment a.now) := by
  have hrst : Still (closeMarkerRstBlock a.segment (Program.pure .noop) : SessionProgram ρ _) :=
    still_ite (still_ifLet (removeServerCloseOnRst_inert hbad)
      (still_ifLet (removePostCloseOnRst_inert hbad) still_noop)) still_noop
  have hunk : Still (unknownFinBlock a.segment
      (closeMarkerRstBlock a.segment (Program.pure .noop)) : SessionProgram ρ _) :=
    still_ite (still_getFlow hbad) hrst
  have hmarker : Still (closeMarkerFinBlock a.segment a.now (unknownFinBlock a.segment
      (closeMarkerRstBlock a.segment (Program.pure .noop))) : SessionProgram ρ _) :=
    still_ite (still_ifLet (acknowledgeServerCloseWithClientFin_inert hbad a.now)
      (still_ifLet (retransmitServerCloseForDuplicateClientFin_inert hbad a.now)
        (still_ifLet (acknowledgePostCloseClientFin_inert hbad a.now) hunk))) hunk
  have hremove : Still (removeBlock relay a.segment a.now (closeMarkerFinBlock a.segment a.now
      (unknownFinBlock a.segment (closeMarkerRstBlock a.segment (Program.pure .noop))))) :=
    still_ifLet (removeOnClose_inert hbad a.now) hmarker
  refine still_ite ?_ hremove
  refine still_ifLet (retransmitServerPayloadForDuplicateClientFin_inert hbad a.now) ?_
  refine still_ifLet (acknowledgeDuplicateClientFin_inert hbad a.now) ?_
  exact still_ite (still_ifLet (acceptClientFinWithPayload_inert hbad a.now) hremove)
    (still_ifLet (acknowledgeClientFin_inert hbad a.now) hremove)

theorem startFromSyn_inert (table : TunTcpSessionTable) :
    ∃ error, startFromSyn a.segment a.serverInitialSequenceNumber a.windowSize a.now table =
      (.error error, table) := by
  unfold startFromSyn
  split
  · exact ⟨_, rfl⟩
  · exact ⟨error, by rw [hbad]⟩

theorem still_processInitialSyn : Still (processInitialSyn a.segment a.now
    a.serverInitialSequenceNumber a.windowSize : SessionProgram ρ _) :=
  still_ifLet (acknowledgeRetransmittedSyn_inert hbad a.now) (still_getFlow hbad)

theorem still_processOpenSegment :
    Still (processOpenSegment relay a.segment a.relayPlan a.now) := by
  have hreset : Still (resetUnknownBlock a.segment : SessionProgram ρ _) :=
    still_ite (still_getFlow hbad) still_noop
  have hack : Still (acknowledgmentBlock a.segment a.now (resetUnknownBlock a.segment) :
      SessionProgram ρ _) :=
    still_ifLet (acknowledgeClientAck_inert hbad a.now)
      (still_ifLet (retransmitServerClose_inert hbad a.now)
        (still_ifLet (acknowledgeServerClose_inert hbad a.now)
          (still_ifLet (acknowledgePostCloseAck_inert hbad a.now) hreset)))
  have hsrv : Still (serverPayloadBlock relay a.segment a.now (resetUnknownBlock a.segment)) :=
    still_ifLet (retransmitServerPayload_inert hbad a.now)
      (still_ifLet (serverPayloadPollSession_inert hbad a.now) hack)
  have hdata : Still (clientPayloadBlock relay a.segment a.now
      (serverPayloadBlock relay a.segment a.now (resetUnknownBlock a.segment))) :=
    still_ifLet (inert_withSession hbad) (still_ifLet (inert_withSession hbad)
      (still_ifLet (inert_withSession hbad) (still_ifLet (inert_withSession hbad) hsrv)))
  show Still (Program.bind (establishBlock relay a.segment a.relayPlan a.now) _)
  unfold establishBlock
  split
  · exact still_bind_ifLet (inert_withSession hbad) hdata
  · exact hdata

theorem still_process : Still (processTunTcpSessionSegmentWithRelayPlan relay a.segment a.relayPlan
    a.now a.serverInitialSequenceNumber a.windowSize) :=
  still_ite (still_processClosingSegment relay a hbad)
    (still_ite (still_processInitialSyn a hbad) (still_processOpenSegment relay a hbad))

end

end KeliNative.Tun
