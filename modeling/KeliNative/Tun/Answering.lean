import KeliNative.Tun.Runs
import KeliNative.Tun.Script

/-!
# What one segment is answered with

Answers go back to the flow of the segment, and one segment makes few of them.
-/

namespace KeliNative.Tun
open TunTcpSessionKey List

/-- A TCP segment of the reversed flow. -/
def Addressed (key : TunTcpSessionKey) (packet : Bytes) : Prop :=
  ∃ segment, parseTunTcpSegment packet = .ok segment ∧ fromFlow segment.flow.reversed = .ok key

/-- How many packets may still be emitted from here on. -/
def Control.packetsLeft : Control → ℕ
  | .start | .opened => 2
  | .reading | .polling | .polled => 1
  | _ => 0

/-- How often the relay may still be called. -/
def Control.callsLeft : Control → ℕ
  | .start => 4
  | .opened => 3
  | .reading | .polling => 2
  | _ => 0

def FlowState.OfFlow (key : TunTcpSessionKey) (state : FlowState) : Prop :=
  ∀ r, state = .active r → fromFlow r.flow = .ok key

section

variable {key : TunTcpSessionKey} {a : Arrival} {control c' : Control}
  {state state' : FlowState} {calls : List RelayEvent} {packets : List Bytes} {packet : Bytes}

theorem addressed {flow : TunPacketFlow} {seq ack : UInt32}
    {flags : TunTcpFlags} {windowSize : UInt16} {data : Bytes} (hflow : fromFlow flow = .ok key)
    (h : buildTunTcpResponsePacket flow seq ack flags windowSize data =
      .ok packet) : Addressed key packet :=
  ⟨_, parse_buildTunTcpResponsePacket _ _ _ _ _ _ _ h, hflow⟩

theorem FlowStep.ofFlow (h : FlowStep key a control state calls packets c' state')
    (hflow : state.OfFlow key) : state'.OfFlow key := by
  cases h with
  | reset => exact hflow
  | wrote | ackedData | polled | clientAcked | finAgain | finTaken =>
    rintro r ⟨⟩
    exact (congrArg fromFlow (clear_flow ..)).trans (hflow _ rfl)
  | synAckAgain | touched | opened | retransmitted | readFailed | readNothing | oversized | sent =>
    rintro r ⟨⟩
    exact (hflow _ rfl :)
  | _ => rintro r ⟨⟩

theorem FlowStep.addressed (h : FlowStep key a control state calls packets c' state')
    (hkey : fromFlow a.segment.flow = .ok key) (hwf : control = .start → state.WellFormed key)
    (hflow : state.OfFlow key) : ∀ packet ∈ packets, Addressed key packet := by
  intro packet hpkt
  -- Only the packets that a marker keeps are not built by the step itself.
  cases h with
  | synAckAgain _ _ _ _ hbuild =>
    rw [mem_singleton.mp hpkt]
    exact Tun.addressed hkey (synAck_build hbuild).2
  | reset _ hbuild =>
    rw [mem_singleton.mp hpkt]
    exact Tun.addressed hkey hbuild
  | wrote _ hdata =>
    rw [mem_emitAfter hpkt]
    exact Tun.addressed ((congrArg fromFlow (clear_flow ..)).trans (hflow _ rfl)) hdata.packet
  | ackedData _ _ _ hbuild =>
    rw [mem_singleton.mp hpkt]
    exact Tun.addressed ((congrArg fromFlow (clear_flow ..)).trans (hflow _ rfl)) hbuild
  | retransmitted _ _ _ _ hbuild | finAgain _ _ _ _ hbuild | sent _ _ _ hbuild =>
    rw [mem_singleton.mp hpkt]
    exact Tun.addressed (hflow _ rfl) hbuild
  | finTaken _ _ hbuild | closedByServer _ _ hbuild | removedByFin _ _ _ hbuild =>
    rw [mem_emitAfter hpkt]
    exact Tun.addressed (hflow _ rfl) hbuild
  | @closeAckedWithFin c _ _ _ _ hbuild =>
    have hc : c.WellFormed key := hwf rfl
    rw [mem_singleton.mp hpkt]
    exact Tun.addressed hc.session.fromFlow hbuild
  | @closeRetransmitted c =>
    have hc : c.WellFormed key := hwf rfl
    rw [mem_singleton.mp hpkt]
    exact Tun.addressed hc.session.fromFlow hc.packet
  | @postFinAgain p _ hrec =>
    have hp : p.WellFormed key := hwf rfl
    rw [mem_singleton.mp hpkt]
    exact Tun.addressed hp.session.fromFlow (hp.packet _ hrec)
  | @postFin p _ _ _ _ _ hbuild =>
    have hp : p.WellFormed key := hwf rfl
    rw [mem_singleton.mp hpkt]
    exact Tun.addressed hp.session.fromFlow hbuild
  | _ => cases hpkt

theorem FlowStep.within (h : FlowStep key a control state calls packets c' state') :
    packets.length + c'.packetsLeft ≤ control.packetsLeft ∧
      calls.length + c'.callsLeft ≤ control.callsLeft := by
  unfold Control.packetsLeft Control.callsLeft
  cases h with
  | opened _ res | removedByFin _ _ _ _ res | removedByRst _ _ res =>
    cases res <;> simp [afterCall, emitAfter]
  | wrote hctl _ _ res =>
    rcases hctl with rfl | rfl <;> cases res <;> simp [afterCall, emitAfter]
  | ackedData hctl | clientAcked hctl => rcases hctl with rfl | rfl <;> simp
  | @finTaken _ _ _ res _ _ _ hcalls =>
    cases res <;> cases hcalls <;> simp [afterCall, emitAfter]
  | readFailed _ _ hcall | readNothing _ hcall | oversized _ hcall | sent _ hcall =>
    cases hcall <;> simp
  | closedByServer _ hcall _ res =>
    cases hcall <;> cases res <;> simp [afterCall, emitAfter]
  | _ => simp

theorem FlowRun.answered (run : FlowRun key a control state calls packets c' state')
    (hkey : fromFlow a.segment.flow = .ok key) (hwf : state.WellFormed key) :
    state'.OfFlow key ∧ (∀ packet ∈ packets, Addressed key packet) ∧
      packets.length + c'.packetsLeft ≤ control.packetsLeft ∧
      calls.length + c'.callsLeft ≤ control.callsLeft := by
  induction run with
  | refl =>
    refine ⟨?_, fun _ hmem => absurd hmem not_mem_nil, by simp, by simp⟩
    rintro r rfl
    exact TunTcpSessionRecord.WellFormed.fromFlow hwf
  | step run step ih =>
    obtain ⟨hflow, haddressed, hpkts, hcalls⟩ := ih hwf
    obtain ⟨hpkts', hcalls'⟩ := step.within
    refine ⟨step.ofFlow hflow, fun packet hmem => ?_, ?_, ?_⟩
    · rcases mem_append.mp hmem with hmem | hmem
      · exact haddressed packet hmem
      · exact step.addressed hkey (run.wellFormed_start hwf) hflow packet hmem
    · rw [length_append]
      omega
    · rw [length_append]
      omega

end

/-- Whatever came before, a segment is answered towards its own flow, with at most two packets and
four calls of the relay. -/
theorem segment_answered {ρ : Type} (relay : TunTcpSessionRelay ρ) (maxActiveSessions : ℕ)
    (relayState : ρ) (inputs : List Input) (key : TunTcpSessionKey) :
    ∀ entry ∈ (execute relay maxActiveSessions relayState inputs).trace,
      (∀ packet ∈ entry.packetsOf key, Addressed key packet) ∧
        (entry.packetsOf key).length ≤ 2 ∧ (entry.callsOf key).length ≤ 4 := by
  intro entry hentry
  obtain ⟨hinv, state, state', hat, -, hmoves⟩ := execute_moves hentry key
  cases hmoves with
  | starts h =>
    obtain ⟨packet, hpkts, hbuild⟩ := h.packets
    rw [hpkts, h.calls, forall_mem_singleton]
    exact ⟨addressed h.key_eq (synAck_build hbuild).2, by simp, by simp⟩
  | continues h =>
    cases h with
    | run _ hkey hrun hemits =>
      obtain ⟨-, haddressed, hpkts, hcalls⟩ := hrun.answered hkey (hinv.wellFormed hat)
      simp only [Control.packetsLeft, Control.callsLeft] at hpkts hcalls
      rcases hemits with hemits | ⟨hemits, -⟩
      · rw [hemits]
        exact ⟨haddressed, by omega, by omega⟩
      · rw [hemits]
        exact ⟨by simp, by simp, by omega⟩
    | idle hcalls hpkts | pruned hcalls hpkts | expired _ hcalls hpkts =>
      rw [hcalls, hpkts]
      exact ⟨by simp, by simp, by simp⟩

theorem segment_answered_syn :
    let trace := (execute (scriptedRelay (.ok ())) 1 []
      [.segment (.ofClient 7 (clientSegment 100 0 0x0002 []))]).trace
    trace.map (fun entry => (entry.packetsOf clientKey).length) = [1] ∧
      ∀ entry ∈ trace, ∀ packet ∈ entry.packetsOf clientKey, Addressed clientKey packet :=
  ⟨by decide, fun entry h => (segment_answered _ _ _ _ _ entry h).1⟩

end KeliNative.Tun
