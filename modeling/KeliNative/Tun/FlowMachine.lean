import KeliNative.Tun.FlowState

/-!
# The flow machine

What one arriving segment can do to its own flow, as a labelled transition system.
-/

namespace KeliNative.Tun
open TunTcpSessionTable

/-- One segment handed to `process_tun_tcp_session_segment_with_relay_plan`. -/
structure Arrival where
  segment : TunTcpSegment
  relayPlan : Option TunPacketRelayPlan
  serverInitialSequenceNumber : UInt32
  windowSize : UInt16
  now : Instant
  deriving DecidableEq

inductive RelayEvent where
  | establish (session : TunTcpSessionRecord) (plan : Option TunPacketRelayPlan)
      (result : Except String Unit)
  | write (frame : TunTcpClientPayloadFrame) (result : Except String Unit)
  | shutdown (session : TunTcpSessionRecord) (result : Except String Unit)
  | read (session : TunTcpSessionRecord) (result : Except String TunTcpServerRead)
  | poll (session : TunTcpSessionRecord) (result : Except String TunTcpServerRead)
  | close (session : TunTcpSessionRecord) (result : Except String Unit)

def RelayEvent.key : RelayEvent → TunTcpSessionKey
  | .establish session _ _ | .shutdown session _ | .read session _ | .poll session _
  | .close session _ => session.key
  | .write frame _ => frame.session.key

namespace TunTcpSessionRecord

def touched (now : Instant) (r : TunTcpSessionRecord) : TunTcpSessionRecord :=
  { r with lastActivityAt := now }

def opened (now : Instant) (r : TunTcpSessionRecord) : TunTcpSessionRecord :=
  { r with phase := .established, lastActivityAt := now }

def acknowledged (segment : TunTcpSegment) (now : Instant) (r : TunTcpSessionRecord) :
    TunTcpSessionRecord :=
  { clearServerUnackedPayloadIfLatestAcknowledged segment r with lastActivityAt := now }

def taken (segment : TunTcpSegment) (now : Instant) (r : TunTcpSessionRecord) :
    TunTcpSessionRecord :=
  { clearServerUnackedPayloadIfLatestAcknowledged segment r with
    clientNextSequenceNumber := tcpSegmentNextSequenceNumber segment
    lastActivityAt := now }

def finished (segment : TunTcpSegment) (now : Instant) (r : TunTcpSessionRecord) :
    TunTcpSessionRecord :=
  { clearServerUnackedPayloadIfLatestAcknowledged segment r with
    clientNextSequenceNumber := tcpSegmentNextSequenceNumber segment
    phase := .clientFinReceived
    lastActivityAt := now }

def sent (payload : Bytes) (now : Instant) (r : TunTcpSessionRecord) : TunTcpSessionRecord :=
  { r with
    serverNextSequenceNumber := r.serverNextSequenceNumber + UInt32.ofNat payload.length
    serverUnackedPayload :=
      some ⟨r.serverNextSequenceNumber, r.clientNextSequenceNumber, payload⟩
    lastActivityAt := now }

end TunTcpSessionRecord

namespace Arrival

def newSession (a : Arrival) (key : TunTcpSessionKey) : TunTcpSessionRecord where
  key := key
  flow := a.segment.flow
  clientInitialSequenceNumber := a.segment.sequenceNumber
  clientNextSequenceNumber := tcpSegmentNextSequenceNumber a.segment
  serverInitialSequenceNumber := a.serverInitialSequenceNumber
  serverNextSequenceNumber := a.serverInitialSequenceNumber + 1
  serverUnackedPayload := none
  windowSize := a.windowSize
  phase := .synReceived
  lastActivityAt := a.now

structure Opens (a : Arrival) (r : TunTcpSessionRecord) : Prop where
  phase : r.phase = .synReceived
  ack : a.segment.flags.ack = true
  syn : a.segment.flags.syn = false
  rst : a.segment.flags.rst = false
  sequence : a.segment.sequenceNumber = r.clientNextSequenceNumber
  acknowledgment : a.segment.acknowledgmentNumber = r.serverNextSequenceNumber

/-- The bytes of the segment the session takes: all of an in-order segment, or the
tail of one that overlaps what was taken before. -/
inductive NewBytes (a : Arrival) (r : TunTcpSessionRecord) : Bytes → Prop where
  | inOrder (h : a.segment.sequenceNumber = r.clientNextSequenceNumber) :
      NewBytes a r a.segment.payload
  | overlap (hfin : a.segment.flags.fin = false)
      (hbef : a.segment.sequenceNumber < r.clientNextSequenceNumber)
      (hafter : r.clientNextSequenceNumber < tcpSegmentNextSequenceNumber a.segment)
      (hfits : (r.clientNextSequenceNumber - a.segment.sequenceNumber).toNat ≤
        a.segment.payload.length) :
      NewBytes a r (a.segment.payload.drop
        (r.clientNextSequenceNumber - a.segment.sequenceNumber).toNat)

/-- A frame of `accept_client_payload` or `accept_overlapping_client_payload`. -/
structure TakesData (a : Arrival) (r : TunTcpSessionRecord) (frame : TunTcpClientPayloadFrame) :
    Prop where
  accepts : acceptsClientData a.segment r = true
  session : frame.session = r.taken a.segment a.now
  bytes : a.NewBytes r frame.payload
  packet : buildSessionAck (r.taken a.segment a.now) = .ok frame.ackPacket

def finFrame (a : Arrival) (r : TunTcpSessionRecord) (packet : Bytes) : TunTcpClientPayloadFrame :=
  ⟨r.finished a.segment a.now, a.segment.sequenceNumber, tcpSegmentNextSequenceNumber a.segment,
    a.segment.payload, packet⟩

/-- The relay calls of an accepted `FIN`, and whether all of them succeeded. -/
inductive FinCalls (a : Arrival) (r : TunTcpSessionRecord) (packet : Bytes) :
    List RelayEvent → Except String Unit → Prop where
  | writeFailed (h : a.segment.payload ≠ []) (error : String) :
      FinCalls a r packet [.write (a.finFrame r packet) (.error error)] (.error error)
  | payload (h : a.segment.payload ≠ []) (result : Except String Unit) :
      FinCalls a r packet [.write (a.finFrame r packet) (.ok ()),
        .shutdown (r.finished a.segment a.now) result] result
  | bare (h : a.segment.payload = []) (result : Except String Unit) :
      FinCalls a r packet [.shutdown (r.finished a.segment a.now) result] result

def finMarker (a : Arrival) (r : TunTcpSessionRecord) (serverNext : UInt32) (packet : Bytes) :
    TunTcpPostCloseSession where
  session := r
  serverNextSequenceNumber := serverNext
  clientNextSequenceNumber := tcpSegmentNextSequenceNumber a.segment
  clientFinSequenceNumber := some a.segment.sequenceNumber
  clientFinAckPacket := some packet
  lastActivityAt := a.now

end Arrival

inductive Control where
  | start
  | opened
  | reading
  | polling
  | polled
  | done
  | refused
  | failed
  deriving DecidableEq

def Control.running : Control → Bool
  | .start | .opened | .polled => true
  | _ => false

inductive ReadCall (r : TunTcpSessionRecord) (result : Except String TunTcpServerRead) :
    Control → RelayEvent → Prop where
  | read : ReadCall r result .reading (.read r result)
  | poll : ReadCall r result .polling (.poll r result)

/-- Where a relay call leads: on to `next`, or to the step's `Relay` error. -/
def afterCall (result : Except String Unit) (next : Control) : Control :=
  match result with
  | .ok _ => next
  | .error _ => .failed

def emitAfter (result : Except String Unit) (packets : List Bytes) : List Bytes :=
  match result with
  | .ok _ => packets
  | .error _ => []

inductive FlowStep (key : TunTcpSessionKey) (a : Arrival) :
    Control → FlowState → List RelayEvent → List Bytes → Control → FlowState → Prop where
  | synAckAgain {r : TunTcpSessionRecord} {packet : Bytes}
      (hsyn : isInitialTcpSynSegment a.segment = true) (hfin : a.segment.flags.fin = false)
      (hph : r.phase = .synReceived)
      (hseq : a.segment.sequenceNumber = r.clientInitialSequenceNumber)
      (hpkt : buildTunTcpSynAckResponsePacket a.segment r.serverInitialSequenceNumber
        r.windowSize = .ok packet) :
      FlowStep key a .start (.active r) [] [packet] .done (.active (r.touched a.now))
  | touched {control : Control} {r : TunTcpSessionRecord} (hctl : control.running = true) :
      FlowStep key a control (.active r) [] [] .refused (.active (r.touched a.now))
  | opened {r : TunTcpSessionRecord} (hopens : a.Opens r) (result : Except String Unit) :
      FlowStep key a .start (.active r) [.establish (r.opened a.now) a.relayPlan result] []
        (afterCall result .opened) (.active (r.opened a.now))
  | wrote {control : Control} {r : TunTcpSessionRecord} {frame : TunTcpClientPayloadFrame}
      (hctl : control = .start ∨ control = .opened) (hdata : a.TakesData r frame)
      (hfin : a.segment.flags.fin = false) (result : Except String Unit) :
      FlowStep key a control (.active r) [.write frame result] (emitAfter result [frame.ackPacket])
        (afterCall result .reading) (.active (r.taken a.segment a.now))
  | ackedData {control : Control} {r : TunTcpSessionRecord} {packet : Bytes}
      (hctl : control = .start ∨ control = .opened)
      (hacpt : acceptsClientData a.segment r = true) (hfin : a.segment.flags.fin = false)
      (hpkt : buildSessionAck (r.acknowledged a.segment a.now) = .ok packet) :
      FlowStep key a control (.active r) [] [packet] .done (.active (r.acknowledged a.segment a.now))
  | retransmitted {r : TunTcpSessionRecord} {unacked : TunTcpServerUnackedPayload} {packet : Bytes}
      (hph : tunTcpPhaseAcceptsServerResponse r.phase = true)
      (hunack : r.serverUnackedPayload = some unacked)
      (hcli : (isPureAck a.segment = true ∧
          a.segment.sequenceNumber = r.clientNextSequenceNumber) ∨
        (isClientFin a.segment = true ∧ r.phase = .clientFinReceived ∧
          tcpSegmentNextSequenceNumber a.segment = r.clientNextSequenceNumber))
      (hackn : a.segment.acknowledgmentNumber = unacked.sequenceNumber)
      (hpkt : buildTunTcpPayloadResponsePacket r.flow unacked.sequenceNumber
        r.clientNextSequenceNumber r.windowSize unacked.payload = .ok packet) :
      FlowStep key a .start (.active r) [] [packet] .done (.active (r.touched a.now))
  | polled {r : TunTcpSessionRecord} (hack : isPureAck a.segment = true)
      (hph : tunTcpPhaseAcceptsServerResponse r.phase = true)
      (hseq : a.segment.sequenceNumber = r.clientNextSequenceNumber)
      (hackn : a.segment.acknowledgmentNumber = r.serverNextSequenceNumber) :
      FlowStep key a .start (.active r) [] [] .polling (.active (r.acknowledged a.segment a.now))
  | clientAcked {control : Control} {r : TunTcpSessionRecord}
      (hctl : control = .start ∨ control = .polled) (hack : isPureAck a.segment = true)
      (hph : tunTcpPhaseAcceptsServerResponse r.phase = true)
      (hseq : a.segment.sequenceNumber = r.clientNextSequenceNumber)
      (hknown : tcpSegmentAcknowledgesKnownServerSequence a.segment r = true) :
      FlowStep key a control (.active r) [] [] .done (.active (r.acknowledged a.segment a.now))
  | finAgain {r : TunTcpSessionRecord} {packet : Bytes} (hfin : isClientFin a.segment = true)
      (hph : r.phase = .clientFinReceived)
      (hseq : tcpSegmentNextSequenceNumber a.segment = r.clientNextSequenceNumber)
      (hknown : tcpSegmentAcknowledgesKnownServerSequence a.segment r = true)
      (hpkt : buildSessionAck r = .ok packet) :
      FlowStep key a .start (.active r) [] [packet] .reading
        (.active (r.acknowledged a.segment a.now))
  | finTaken {r : TunTcpSessionRecord} {packet : Bytes} {calls : List RelayEvent}
      {result : Except String Unit} (hfin : isClientFin a.segment = true)
      (hacpt : acceptsClientFin a.segment r = true)
      (hpkt : buildTunTcpAckResponsePacket r.flow r.serverNextSequenceNumber
        (tcpSegmentNextSequenceNumber a.segment) r.windowSize = .ok packet)
      (hcalls : a.FinCalls r packet calls result) :
      FlowStep key a .start (.active r) calls (emitAfter result [packet]) (afterCall result .reading)
        (.active (r.finished a.segment a.now))
  | readFailed {control : Control} {r : TunTcpSessionRecord} {event : RelayEvent}
      (hph : tunTcpPhaseAcceptsServerResponse r.phase = true) (error : String)
      (hcall : ReadCall r (.error error) control event) :
      FlowStep key a control (.active r) [event] [] .failed (.active r)
  | readNothing {control : Control} {r : TunTcpSessionRecord} {event : RelayEvent}
      {read : TunTcpServerRead} (hph : tunTcpPhaseAcceptsServerResponse r.phase = true)
      (hcall : ReadCall r (.ok read) control event)
      (hread : read = .noPayload ∨ read = .payload []) :
      FlowStep key a control (.active r) [event] [] .polled (.active r)
  | oversized {control : Control} {r : TunTcpSessionRecord} {event : RelayEvent} {payload : Bytes}
      (hph : tunTcpPhaseAcceptsServerResponse r.phase = true)
      (hcall : ReadCall r (.ok (.payload payload)) control event)
      (hsize : maxTcpPayloadLen r.flow.ipVersion < payload.length) :
      FlowStep key a control (.active r) [event] [] .refused (.active r)
  | sent {control : Control} {r : TunTcpSessionRecord} {event : RelayEvent} {payload packet : Bytes}
      (hph : tunTcpPhaseAcceptsServerResponse r.phase = true)
      (hcall : ReadCall r (.ok (.payload payload)) control event) (hpay : payload ≠ [])
      (hpkt : buildTunTcpPayloadResponsePacket r.flow r.serverNextSequenceNumber
        r.clientNextSequenceNumber r.windowSize payload = .ok packet) :
      FlowStep key a control (.active r) [event] [packet] .done (.active (r.sent payload a.now))
  | closedByServer {control : Control} {r : TunTcpSessionRecord} {event : RelayEvent} {packet : Bytes}
      (hph : tunTcpPhaseAcceptsServerResponse r.phase = true)
      (hcall : ReadCall r (.ok .closed) control event)
      (hpkt : buildTunTcpFinAckResponsePacket r.flow r.serverNextSequenceNumber
        r.clientNextSequenceNumber r.windowSize = .ok packet) (result : Except String Unit) :
      FlowStep key a control (.active r) [event, .close r result] (emitAfter result [packet])
        (afterCall result .done) (.serverClosed ⟨⟨r, r.serverNextSequenceNumber,
          r.clientNextSequenceNumber, packet⟩, a.now⟩)
  | removedByFin {r : TunTcpSessionRecord} {packet : Bytes} (hfin : a.segment.flags.fin = true)
      (hrst : a.segment.flags.rst = false)
      (hmatch : tcpCloseSegmentMatchesSession a.segment r = true)
      (hpkt : buildTunTcpAckResponsePacket r.flow r.serverNextSequenceNumber
        (tcpSegmentNextSequenceNumber a.segment) r.windowSize = .ok packet)
      (result : Except String Unit) :
      FlowStep key a .start (.active r) [.close r result] (emitAfter result [packet])
        (afterCall result .done) (.postClosed (a.finMarker r r.serverNextSequenceNumber packet))
  | removedByRst {r : TunTcpSessionRecord} (hrst : a.segment.flags.rst = true)
      (hmatch : tcpCloseSegmentMatchesSession a.segment r = true) (result : Except String Unit) :
      FlowStep key a .start (.active r) [.close r result] [] (afterCall result .done) .absent
  | closeAckedWithFin {c : TunTcpServerClosedSession} {packet : Bytes}
      (hfin : isClientFin a.segment = true) (hpay : a.segment.payload = [])
      (hacks : acknowledgesServerFin a.segment c.response = true)
      (hpkt : buildTunTcpAckResponsePacket c.response.session.flow
        (serverCloseNextSequenceNumber c.response) (tcpSegmentNextSequenceNumber a.segment)
        c.response.session.windowSize = .ok packet) :
      FlowStep key a .start (.serverClosed c) [] [packet] .done (.postClosed
        (a.finMarker c.response.session (serverCloseNextSequenceNumber c.response) packet))
  | closeRetransmitted {c : TunTcpServerClosedSession} :
      FlowStep key a .start (.serverClosed c) [] [c.response.packet] .done
        (.serverClosed { c with lastActivityAt := a.now })
  | closeAcked {c : TunTcpServerClosedSession}
      (hacks : acknowledgesServerFin a.segment c.response = true) :
      FlowStep key a .start (.serverClosed c) [] [] .done (.postClosed {
        session := c.response.session
        serverNextSequenceNumber := serverCloseNextSequenceNumber c.response
        clientNextSequenceNumber := c.response.acknowledgmentNumber
        clientFinSequenceNumber := none
        clientFinAckPacket := none
        lastActivityAt := a.now })
  | postFinAgain {p : TunTcpPostCloseSession} {packet : Bytes}
      (hpkt : p.clientFinAckPacket = some packet) :
      FlowStep key a .start (.postClosed p) [] [packet] .done
        (.postClosed { p with lastActivityAt := a.now })
  | postFin {p : TunTcpPostCloseSession} {packet : Bytes} (hfin : isClientFin a.segment = true)
      (hackn : a.segment.acknowledgmentNumber = p.serverNextSequenceNumber)
      (hfirst : p.clientFinSequenceNumber = none)
      (hseq : a.segment.sequenceNumber = p.clientNextSequenceNumber)
      (hpkt : buildTunTcpAckResponsePacket p.session.flow p.serverNextSequenceNumber
        (tcpSegmentNextSequenceNumber a.segment) p.session.windowSize = .ok packet) :
      FlowStep key a .start (.postClosed p) [] [packet] .done
        (.postClosed (a.finMarker p.session p.serverNextSequenceNumber packet))
  | postAcked {p : TunTcpPostCloseSession} :
      FlowStep key a .start (.postClosed p) [] [] .done
        (.postClosed { p with lastActivityAt := a.now })
  | markerReset {state : FlowState} (hmarker : state.session = none) :
      FlowStep key a .start state [] [] .done .absent
  | reset {state : FlowState} {packet : Bytes} (hunk : state.session = none)
      (hpkt : buildTunTcpResetResponsePacket a.segment = .ok packet) :
      FlowStep key a .start state [] [packet] .done state

/-- A run of transitions, with the calls and the packets of all of them. -/
inductive FlowRun (key : TunTcpSessionKey) (a : Arrival) :
    Control → FlowState → List RelayEvent → List Bytes → Control → FlowState → Prop where
  | refl (control : Control) (state : FlowState) : FlowRun key a control state [] [] control state
  | step {control c' control'' : Control} {state state' state'' : FlowState}
      {calls calls' : List RelayEvent} {packets packets' : List Bytes}
      (run : FlowRun key a control state calls packets c' state')
      (step : FlowStep key a c' state' calls' packets' control'' state'') :
      FlowRun key a control state (calls ++ calls') (packets ++ packets') control'' state''

/-- What a whole step does to its flow: a run within the flow's incarnation, or a `SYN`
that starts a new one. -/
inductive FlowEffect (key : TunTcpSessionKey) (a : Arrival) :
    FlowState → List RelayEvent → List Bytes → Control → FlowState → Prop where
  | run {control : Control} {state state' : FlowState} {calls : List RelayEvent}
      {packets : List Bytes} (h : FlowRun key a .start state calls packets control state') :
      FlowEffect key a state calls packets control state'
  | started {state : FlowState} {packet : Bytes}
      (hsyn : isInitialTcpSynSegment a.segment = true) (hfin : a.segment.flags.fin = false)
      (hnew : ∀ r, state = .active r → r.phase = .synReceived ∧
        a.segment.sequenceNumber ≠ r.clientInitialSequenceNumber)
      (hpkt : buildTunTcpSynAckResponsePacket a.segment a.serverInitialSequenceNumber
        a.windowSize = .ok packet) :
      FlowEffect key a state [] [packet] .done (.active (a.newSession key))

theorem FlowRun.single {key : TunTcpSessionKey} {a : Arrival} {ctl c' : Control}
    {state st' : FlowState} {calls : List RelayEvent} {pkts : List Bytes}
    (step : FlowStep key a ctl state calls pkts c' st') :
    FlowRun key a ctl state calls pkts c' st' := by
  have h := FlowRun.step (.refl ctl state) step
  simpa only [List.nil_append] using h

end KeliNative.Tun
