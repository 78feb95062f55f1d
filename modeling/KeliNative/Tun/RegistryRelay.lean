import KeliNative.Tun.Process

/-!
# The registry relay (`RegistryTunTcpSessionRelay`, `keli-net-core/src/tun.rs`)

The relay keeps one outbound connection per session key.
-/

namespace KeliNative.Tun
open Route

variable {ω κ : Type}

/-- What a `read` of a connection comes to: the bytes received, an error, or a reason to try
again together with what the next attempt comes to. -/
inductive ReadAttempt (ω : Type) where
  | received (bytes : Bytes) (world : ω)
  | interrupted (rest : ReadAttempt ω)
  | notReady (now : Instant) (world : ω) (rest : ReadAttempt ω)
  | failed (error : String) (world : ω)

/-- The outbound registry, its connections and the clock, as far as the relay uses them. -/
structure Outbounds (ω κ : Type) where
  connectDirect : OutboundTarget → Duration → Program ω String κ
  connectOutbound : String → OutboundTarget → Duration → Program ω String κ
  setNonblockingMode : κ → Program ω String Unit
  writeAll : κ → Bytes → Program ω String Unit
  flush : κ → Program ω String Unit
  read : κ → ℕ → ω → ReadAttempt ω
  shutdownWrite : κ → Program ω String Unit
  shutdownBoth : κ → Program ω String Unit
  drop : κ → ω → ω
  clock : ω → Instant × ω

structure DebugText where
  key : TunTcpSessionKey → String
  action : TunPacketRelayAction → String

structure RegistryRelayState (ω κ : Type) where
  sessions : KeyMap TunTcpSessionKey κ
  world : ω

def tunTcpRelayReadBufferSizeForFlow (flow : TunPacketFlow) (configuredSize : ℕ) : ℕ :=
  let maxPayloadLen := match flow.ipVersion with
    | .ipv4 => 1500 - 20 - 20
    | .ipv6 => 1500 - 40 - 20
  min (max configuredSize 1) maxPayloadLen

section

variable (outbounds : Outbounds ω κ) (text : DebugText) (timeout : Duration) (readBufferSize : ℕ)

def onWorld {α : Type} (program : Program ω String α) : Program (RegistryRelayState ω κ) String α :=
  fun state =>
    let (result, world) := program state.world
    (result, { state with world := world })

def connectForPlan (plan : TunPacketRelayPlan) : Program ω String κ :=
  let connect : Program ω String κ → Program ω String κ := fun program => fun world =>
    match program world with
    | (.error error, world) => (.error error, world)
    | (.ok connection, world) =>
      match outbounds.setNonblockingMode connection world with
      | (.error error, world) => (.error error, outbounds.drop connection world)
      | (.ok _, world) => (.ok connection, world)
  match plan.relayAction with
  | .directTcp target => connect (outbounds.connectDirect target timeout)
  | .outboundTcp tag target => connect (outbounds.connectOutbound tag target timeout)
  | action => Program.fail ("unsupported TUN TCP relay action: " ++ text.action action)

/- `close_key` ignores the outcome of `shutdown_both`; the connection it took out of the
map is dropped afterwards. -/
def closeKey (key : TunTcpSessionKey) (state : RegistryRelayState ω κ) : RegistryRelayState ω κ :=
  match state.sessions.lookup key with
  | none => state
  | some connection =>
    ⟨state.sessions.erase key,
      outbounds.drop connection (outbounds.shutdownBoth connection state.world).2⟩

def notConnected (key : TunTcpSessionKey) : String :=
  "TUN TCP session is not connected: " ++ text.key key

/-- The loop of `read_server_event_until`, over the attempts the connection makes. -/
def readAttempts (key : TunTcpSessionKey) (deadline : Option Instant) (bufferSize : ℕ)
    (sessions : KeyMap TunTcpSessionKey κ) :
    ReadAttempt ω → Except String TunTcpServerRead × RegistryRelayState ω κ
  | .received bytes world =>
    match bytes.take bufferSize with
    | [] => (.ok .closed, closeKey outbounds key ⟨sessions, world⟩)
    | byte :: rest => (.ok (.payload (byte :: rest)), ⟨sessions, world⟩)
  | .interrupted rest => readAttempts key deadline bufferSize sessions rest
  | .notReady now world rest =>
    match deadline with
    | none => (.ok .noPayload, ⟨sessions, world⟩)
    | some deadline =>
      if deadline ≤ now then (.ok .noPayload, ⟨sessions, world⟩)
      else readAttempts key (some deadline) bufferSize sessions rest
  | .failed error world => (.error error, ⟨sessions, world⟩)

def readServerEventUntil (session : TunTcpSessionRecord) (deadline : Option Instant) :
    Program (RegistryRelayState ω κ) String TunTcpServerRead := fun state =>
  let bufferSize := tunTcpRelayReadBufferSizeForFlow session.flow readBufferSize
  match state.sessions.lookup session.key with
  | none => (.ok .closed, state)
  | some connection =>
    readAttempts outbounds session.key deadline bufferSize state.sessions
      (outbounds.read connection bufferSize state.world)

def registryTunTcpSessionRelay : TunTcpSessionRelay (RegistryRelayState ω κ) where
  establishSession _ := Program.fail
    "registry TUN TCP relay requires a relay plan to establish sessions"
  establishSessionWithPlan session plan := fun state =>
    let state := closeKey outbounds session.key state
    match connectForPlan outbounds text timeout plan state.world with
    | (.error error, world) => (.error error, { state with world := world })
    | (.ok connection, world) =>
      (.ok (), ⟨state.sessions.insert session.key connection, world⟩)
  writeClientPayload frame := fun state =>
    match state.sessions.lookup frame.session.key with
    | none => (.error (notConnected text frame.session.key), state)
    | some connection =>
      Program.bind (onWorld (outbounds.writeAll connection frame.payload))
        (fun _ => onWorld (outbounds.flush connection)) state
  shutdownClientWrite session := fun state =>
    match state.sessions.lookup session.key with
    | none => (.error (notConnected text session.key), state)
    | some connection => onWorld (outbounds.shutdownWrite connection) state
  readServerEvent session := fun state =>
    let (now, world) := outbounds.clock state.world
    readServerEventUntil outbounds readBufferSize session (some (now + timeout))
      { state with world := world }
  pollServerEvent session := readServerEventUntil outbounds readBufferSize session none
  closeSession session := fun state => (.ok (), closeKey outbounds session.key state)

end

end KeliNative.Tun
