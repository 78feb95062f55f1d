import KeliNative.Net.OutboundConnection
import KeliNative.Tun.Connections

/-!
# The client's half-close

`shutdown_client_write` calls the inherent `shutdown_write` of the connection.
-/

namespace KeliNative.Tun
open TunTcpSessionTable Program List

inductive RelayCall where
  | establish (session : TunTcpSessionRecord) (plan : Option TunPacketRelayPlan)
  | write (frame : TunTcpClientPayloadFrame)
  | shutdown (session : TunTcpSessionRecord)
  | read (session : TunTcpSessionRecord)
  | poll (session : TunTcpSessionRecord)
  | close (session : TunTcpSessionRecord)
  deriving DecidableEq

def RelayEvent.call : RelayEvent → RelayCall
  | .establish session plan _ => .establish session plan
  | .write frame _ => .write frame
  | .shutdown session _ => .shutdown session
  | .read session _ => .read session
  | .poll session _ => .poll session
  | .close session _ => .close session

namespace TunTcpSessionRelay

variable {ρ : Type} (relay : TunTcpSessionRelay ρ)

def perform : RelayCall → ρ → RelayEvent × ρ
  | .establish session plan, s =>
    let (result, s) := relay.establish plan session s
    (.establish session plan result, s)
  | .write frame, s =>
    let (result, s) := relay.writeClientPayload frame s
    (.write frame result, s)
  | .shutdown session, s =>
    let (result, s) := relay.shutdownClientWrite session s
    (.shutdown session result, s)
  | .read session, s =>
    let (result, s) := relay.readServerEvent session s
    (.read session result, s)
  | .poll session, s =>
    let (result, s) := relay.pollServerEvent session s
    (.poll session result, s)
  | .close session, s =>
    let (result, s) := relay.closeSession session s
    (.close session result, s)

def after (s : ρ) (calls : List RelayCall) : ρ :=
  calls.foldl (fun s call => (relay.perform call s).2) s

theorem after_append (s : ρ) (calls calls' : List RelayCall) :
    relay.after s (calls ++ calls') = relay.after (relay.after s calls) calls' :=
  foldl_append

end TunTcpSessionRelay

section

variable {ρ α : Type} (relay : TunTcpSessionRelay ρ)

def FollowsLog (start : ρ) (s : ρ × List RelayEvent) : Prop :=
  s.1 = relay.after start (s.2.map RelayEvent.call)

theorem record_followsLog {start : ρ} {ev : Except String α → RelayEvent}
    {call : ρ → Except String α × ρ} {relayCall : RelayCall}
    (hcall : ∀ res, (ev res).call = relayCall)
    (hperform : ∀ s, (relay.perform relayCall s).2 = (call s).2) (s : ρ × List RelayEvent)
    (h : FollowsLog relay start s) : FollowsLog relay start (record ev call s).2 := by
  obtain ⟨s, log⟩ := s
  obtain rfl : s = relay.after start (log.map RelayEvent.call) := h
  show (call _).2 = relay.after start ((log ++ [ev _]).map RelayEvent.call)
  rw [map_append, map_singleton, hcall, relay.after_append, ← hperform]
  rfl

/-- Every call of the log has the result the relay gives it after the calls before it. -/
def Answered (start : ρ) (log : List RelayEvent) : Prop :=
  ∀ before event after, log = before ++ event :: after →
    (relay.perform event.call (relay.after start (before.map RelayEvent.call))).1 = event

theorem record_answered {start : ρ} {ev : Except String α → RelayEvent}
    {call : ρ → Except String α × ρ} {relayCall : RelayCall}
    (hcall : ∀ res, (ev res).call = relayCall)
    (hperform : ∀ s, relay.perform relayCall s = (ev (call s).1, (call s).2))
    (s : ρ × List RelayEvent) (h : FollowsLog relay start s ∧ Answered relay start s.2) :
    FollowsLog relay start (record ev call s).2 ∧ Answered relay start (record ev call s).2.2 := by
  refine ⟨record_followsLog relay hcall (fun s => congrArg Prod.snd (hperform s)) s h.1, ?_⟩
  obtain ⟨s, log⟩ := s
  obtain rfl : s = relay.after start (log.map RelayEvent.call) := h.1
  intro before event' after hlog
  change log ++ [ev (call _).1] = _ at hlog
  -- The event is the one just recorded, or it stands in the log it was added to.
  rcases after.eq_nil_or_concat with rfl | ⟨earlier, last, rfl⟩
  · obtain ⟨rfl, hev⟩ := append_inj' hlog rfl
    obtain rfl := (cons.inj hev).1
    rw [hcall, hperform]
  · rw [concat_eq_append, ← cons_append, ← append_assoc] at hlog
    exact h.2 before event' earlier (append_inj' hlog rfl).1

theorem recording_answered (start : ρ) : relay.recording.Preserves
    fun s => FollowsLog relay start s ∧ Answered relay start s.2 where
  establish plan session := by
    cases plan with
    | none => exact record_answered relay (fun _ => rfl) fun _ => rfl
    | some plan => exact record_answered relay (fun _ => rfl) fun _ => rfl
  write frame := record_answered relay (fun _ => rfl) fun _ => rfl
  shutdown session := record_answered relay (fun _ => rfl) fun _ => rfl
  read session := record_answered relay (fun _ => rfl) fun _ => rfl
  poll session := record_answered relay (fun _ => rfl) fun _ => rfl
  close session := record_answered relay (fun _ => rfl) fun _ => rfl

theorem react_answered {e : Execution ρ} (hinv : e.table.Inv) (a : Arrival) :
    Answered relay e.relayState (e.react relay (.segment a)).1.calls :=
  (preserves_process (recording_answered relay e.relayState) a (e.table, e.relayState, [])
    ⟨⟨hinv, rfl⟩, rfl, fun _ _ _ hlog => absurd hlog.symm
      (append_ne_nil_of_right_ne_nil _ (cons_ne_nil _ _))⟩).2.2

end

section

variable {ω : Type}

def described {α : Type} (program : Io ω α) : Program ω String α := fun world =>
  let (result, world) := program world
  (result.mapError IoError.message, world)

/-- Outbounds whose connections are `OutboundConnection`s, with their inherent shutdown calls. -/
def connectionOutbounds (base : Outbounds ω (OutboundConnection ω)) :
    Outbounds ω (OutboundConnection ω) :=
  { base with
    setNonblockingMode := fun connection =>
      described (connection.asOwnedRelayStream.setNonblockingMode true)
    flush := fun connection => described connection.asOwnedRelayStream.flush
    shutdownWrite := fun connection => described connection.shutdownWrite
    shutdownBoth := fun connection => described connection.shutdownBoth }

variable (base : Outbounds ω (OutboundConnection ω)) (text : DebugText) (timeout : Duration)
  (readBufferSize : ℕ)

theorem shutdownClientWrite_ok {sess : TunTcpSessionRecord}
    {state : RegistryRelayState ω (OutboundConnection ω)}
    (h : ((registryTunTcpSessionRelay (connectionOutbounds base) text timeout
      readBufferSize).shutdownClientWrite sess state).1 = .ok ()) :
    ∃ conn, state.sessions.lookup sess.key = some conn ∧
      ((registryTunTcpSessionRelay (connectionOutbounds base) text timeout
        readBufferSize).shutdownClientWrite sess state).2.world =
          (conn.shutdownWrite state.world).2 := by
  simp only [registryTunTcpSessionRelay] at h ⊢
  cases hlook : state.sessions.lookup sess.key with
  | none =>
    rw [hlook] at h
    cases h
  | some conn => exact ⟨conn, rfl, rfl⟩

end

/-- A successful `shutdown_client_write` half-closes exactly the sockets and WebSockets, and owned
streams for which that is nothing. -/
theorem half_close_effect_iff {ω : Type} (base : Outbounds ω (OutboundConnection ω))
    (text : DebugText) (timeout : Duration) (readBufferSize maxActiveSessions : ℕ)
    (relayState : RegistryRelayState ω (OutboundConnection ω)) (inputs : List Input) (a : Arrival)
    (before after : List RelayEvent) (session : TunTcpSessionRecord) :
    let relay := registryTunTcpSessionRelay (connectionOutbounds base) text timeout readBufferSize
    let e := execute relay maxActiveSessions relayState inputs
    let state := relay.after e.relayState (before.map RelayEvent.call)
    ((e.react relay (.segment a)).1.calls = before ++ .shutdown session (.ok ()) :: after →
      ∃ connection, state.sessions.lookup session.key = some connection ∧
        ((relay.shutdownClientWrite session state).2.world =
            (connection.asOwnedRelayStream.shutdownWrite state.world).2 ↔
          ∀ stream, connection = .owned stream →
            (stream.shutdownWrite state.world).2 = state.world)) ∧
      ∀ (connection : OutboundConnection ω) (world : ω),
        ((connection.shutdownWrite world).2 = (connection.asOwnedRelayStream.shutdownWrite world).2 ↔
          ∀ stream, connection = .owned stream → (stream.shutdownWrite world).2 = world) ∧
        ((connection.shutdownBoth world).2 = (connection.asOwnedRelayStream.shutdownBoth world).2 ↔
          ∀ stream, connection = .owned stream → (stream.shutdownBoth world).2 = world) := by
  intro relay e state
  refine ⟨fun hcalls => ?_, OutboundConnection.shutdown_agree_iff⟩
  have hev := react_answered relay (execute_inv inputs) a before _ after hcalls
  have hok : (relay.shutdownClientWrite session state).1 = .ok () := (RelayEvent.shutdown.inj hev).2
  obtain ⟨connection, hlook, hworld⟩ :=
    shutdownClientWrite_ok base text timeout readBufferSize hok
  refine ⟨connection, hlook, ?_⟩
  rw [hworld]
  exact (connection.shutdown_agree_iff state.world).1

def shutFlagStream : ByteStream Bool where
  setNonblockingMode _ := Program.pure ()
  read _ := Program.pure []
  write bytes := Program.pure bytes.length
  flush := Program.pure ()
  shutdownWrite := fun _ => (.ok (), true)
  shutdownBoth := fun _ => (.ok (), true)

def shutFlagSocket : TcpStream Bool where
  setNonblocking _ := Program.pure ()
  read _ := Program.pure []
  write bytes := Program.pure bytes.length
  flush := Program.pure ()
  shutdown _ := fun _ => (.ok (), true)

def singleOutbounds (connection : OutboundConnection Bool) :
    Outbounds Bool (OutboundConnection Bool) where
  connectDirect _ _ := Program.pure connection
  connectOutbound _ _ _ := Program.pure connection
  setNonblockingMode _ := Program.pure ()
  writeAll _ _ := Program.pure ()
  flush _ := Program.pure ()
  read _ _ world := .notReady 0 world (.failed "closed" world)
  shutdownWrite _ := Program.pure ()
  shutdownBoth _ := Program.pure ()
  drop _ := id
  clock world := (0, world)

def plannedOpening : List Input :=
  [clientSegment 100 0 0x0002 [], clientSegment 101 8 0x0010 []].map
    fun segment => .segment { Arrival.ofClient 7 segment with relayPlan := some directPlan }

def closingArrival : Arrival :=
  { Arrival.ofClient 7 (clientSegment 101 8 0x0011 []) with relayPlan := some directPlan }

def closingSession : TunTcpSessionRecord :=
  ⟨clientKey, clientFlow, 100, 102, 7, 8, none, 0x4000, .clientFinReceived, 0⟩

/-- Over a socket the half-close reaches the upstream. -/
theorem half_close_effect_iff_socket :
    let relay := registryTunTcpSessionRelay
      (connectionOutbounds (singleOutbounds (.tcp shutFlagSocket))) ⟨fun _ => "", fun _ => ""⟩ 0 16384
    let e := execute relay 4 ⟨∅, false⟩ plannedOpening
    let state := relay.after e.relayState []
    ∃ connection, state.sessions.lookup clientKey = some connection ∧
      ((relay.shutdownClientWrite closingSession state).2.world =
          (connection.asOwnedRelayStream.shutdownWrite state.world).2 ↔
        ∀ stream, connection = .owned stream → (stream.shutdownWrite state.world).2 = state.world) :=
  (half_close_effect_iff (singleOutbounds (.tcp shutFlagSocket)) ⟨fun _ => "", fun _ => ""⟩ 0 16384 4
    ⟨∅, false⟩ plannedOpening closingArrival [] [.read closingSession (.ok .noPayload)]
    closingSession).1 rfl

/-- Over an owned stream the `FIN` is accepted and acknowledged and `shutdown_client_write`
returns `Ok`, but the stream's write side stays open. -/
theorem owned_stream_stays_open :
    let relay := registryTunTcpSessionRelay
      (connectionOutbounds (singleOutbounds (.owned shutFlagStream))) ⟨fun _ => "", fun _ => ""⟩ 0 16384
    let e := execute relay 4 ⟨∅, false⟩ plannedOpening
    let closed := e.advance relay (.segment closingArrival)
    (e.react relay (.segment closingArrival)).1.calls =
        [.shutdown closingSession (.ok ()), .read closingSession (.ok .noPayload)] ∧
      closed.table.sessions.lookup clientKey = some closingSession ∧
      closed.relayState.world = false ∧
      ((OutboundConnection.owned shutFlagStream).asOwnedRelayStream.shutdownWrite
        e.relayState.world).2 = true :=
  ⟨rfl, by decide, by decide, by decide⟩

end KeliNative.Tun
