import KeliNative.Client.TunRelays
import KeliNative.Tun.LoopSummary

/-!
# The managed packet loops (`keli-cli/src/lib.rs`)

One loop keeps its relays and resolvers, the other makes them anew for every packet.
-/

namespace KeliNative.Client
open Dns Outbound Program Proxy Route Tun

structure TunLoopState (ω κ : Type) where
  sessions : TunTcpSessionTable
  relay : RegistryRelayState (TunWorld ω) κ
  summary : TunPacketLoopSummary

/-- What is left of it when the relays and the resolvers go out of scope. -/
structure SharedTunLoopState (ω : Type) where
  sessions : TunTcpSessionTable
  net : Logged ω NetEvent
  summary : TunPacketLoopSummary

def managedTunIdlePollInterval : Duration := 10

section

variable {ω κ : Type} (env : TunEnvironment ω κ) (dnsHijack : Bool) (dnsTtlSeconds : UInt32)

def dropRelay (relay : RegistryRelayState (TunWorld ω) κ) : Logged ω NetEvent :=
  ⟨relay.sessions.entries.foldl (fun world entry => env.drop entry.2 world) relay.world.net.world,
    relay.world.net.events⟩

def TunLoopState.scopeEnd (s : TunLoopState ω κ) : SharedTunLoopState ω :=
  ⟨s.sessions, dropRelay env s.relay, s.summary⟩

def SharedTunLoopState.renew (runtime : MixedProxyRuntime) (s : SharedTunLoopState ω) :
    TunLoopState ω κ :=
  ⟨s.sessions, ⟨∅, .fresh runtime s.net⟩, s.summary⟩

def sleepTun (duration : Duration) (relay : RegistryRelayState (TunWorld ω) κ) :
    RegistryRelayState (TunWorld ω) κ :=
  { relay with world := { relay.world with
    net := ⟨env.sleep duration relay.world.net.world, relay.world.net.events⟩ } }

def tunLoopTurn (runtime : MixedProxyRuntime) : Program (TunLoopState ω κ) String Unit := fun s =>
  let (now, relay) := (tunParts env runtime).now s.relay
  let (report, sessions, relay) :=
    pruneIdleTunTcpSessions (tunTcpRelay env runtime) now runtime.idleTimeout (s.sessions, relay)
  let summary := s.summary.recordTcpSessionPruneReport report
  match processTunDevicePacketWithRelays env.ipText (tunParts env runtime)
      (tunSettings runtime dnsHijack dnsTtlSeconds) (sessions, relay) with
  | (.error error, sessions, relay) =>
    (.error ("run TUN packet loop: " ++ error.display), ⟨sessions, relay, summary⟩)
  | (.ok event, sessions, relay) =>
    let summary := (summary.recordEvent event).recordTcpSessionTableState sessions
    let relay := if event = .noPacket then sleepTun env managedTunIdlePollInterval relay else relay
    (.ok (), ⟨sessions, relay, summary⟩)

def tunLoop (runtime : MixedProxyRuntime) (stop : ω → Bool) :
    ℕ → Program (TunLoopState ω κ) String Bool
  | 0 => Program.pure true
  | packets + 1 => fun s =>
    if stop s.relay.world.net.world then
      (.ok false, { s with summary := s.summary.recordStopRequested })
    else Program.bind (tunLoopTurn env dnsHijack dnsTtlSeconds runtime)
      (fun _ => tunLoop runtime stop packets) s

def finishSummary (sessions : TunTcpSessionTable) (summary : TunPacketLoopSummary)
    (packetLimitReached : Bool) : TunPacketLoopSummary :=
  (if packetLimitReached then summary.recordPacketLimitReached else summary).recordTcpSessionTableState
    sessions

def startSessions (runtime : MixedProxyRuntime) (net : Logged ω NetEvent) : SharedTunLoopState ω :=
  ⟨.withMaxActiveSessions runtime.tunTcpMaxActiveSessions, net, {}⟩

def runManagedTunPacketLoopIoUntilStop (runtime : MixedProxyRuntime) (maxPackets : ℕ)
    (stop : ω → Bool) : Program (Logged ω NetEvent) String TunPacketLoopSummary := fun net =>
  let (outcome, s) := tunLoop env dnsHijack dnsTtlSeconds runtime stop maxPackets
    ((startSessions runtime net).renew runtime)
  let s := s.scopeEnd env
  (outcome.map (finishSummary s.sessions s.summary), s.net)

/-- `runtime.read()`: the value behind the lock, or nothing once it is poisoned. -/
abbrev SharedRuntime (ω : Type) := ω → Option MixedProxyRuntime

def lockPoisoned : String := "managed mixed runtime lock poisoned"

variable (shared : SharedRuntime ω)

def sharedTunLoopTurn : Program (SharedTunLoopState ω) String Unit := fun s =>
  match shared s.net.world with
  | none => (.error lockPoisoned, s)
  | some runtime =>
    let (outcome, s) := tunLoopTurn env dnsHijack dnsTtlSeconds runtime (s.renew runtime)
    (outcome, s.scopeEnd env)

def sharedTunLoop (stop : ω → Bool) : ℕ → Program (SharedTunLoopState ω) String Bool
  | 0 => Program.pure true
  | packets + 1 => fun s =>
    if stop s.net.world then
      (.ok false, { s with summary := s.summary.recordStopRequested })
    else Program.bind (sharedTunLoopTurn env dnsHijack dnsTtlSeconds shared)
      (fun _ => sharedTunLoop stop packets) s

def runManagedTunPacketLoopSharedRuntimeUntilStop (maxPackets : ℕ) (stop : ω → Bool) :
    Program (Logged ω NetEvent) String TunPacketLoopSummary := fun net =>
  match shared net.world with
  | none => (.error lockPoisoned, net)
  | some runtime =>
    let (outcome, s) := sharedTunLoop env dnsHijack dnsTtlSeconds shared stop maxPackets
      (startSessions runtime net)
    (outcome.map (finishSummary s.sessions s.summary), s.net)

end

section

variable {ω κ : Type} {env : TunEnvironment ω κ} {dnsHijack : Bool} {dnsTtlSeconds : UInt32}
  {runtime : MixedProxyRuntime} {shared : SharedRuntime ω} {stop : ω → Bool}

/-- There is nothing to lose: the TCP relay holds no connection, and no resolver has cached an
answer. -/
structure TunLoopState.IsFresh (runtime : MixedProxyRuntime) (s : TunLoopState ω κ) : Prop where
  connections : s.relay.sessions = ∅
  resolvers : ∀ resolver, s.relay.world.engine resolver = runtime.dnsOptions.engine

theorem renew_scopeEnd {s : TunLoopState ω κ} (h : s.IsFresh runtime) :
    (s.scopeEnd env).renew runtime = s := by
  obtain ⟨sessions, ⟨connections, net, engine⟩, summary⟩ := s
  obtain ⟨hconnections, hresolvers⟩ := h
  obtain rfl : connections = ∅ := hconnections
  obtain rfl : engine = fun _ => runtime.dnsOptions.engine := funext hresolvers
  rfl

/-- From fresh relays and resolvers the shared loop does what the plain one does. -/
theorem sharedTunLoop_eq (hshared : ∀ world, shared world = some runtime) (pkts : ℕ)
    (s : SharedTunLoopState ω)
    (hfresh : ∀ k, 0 < k → k < pkts → ∀ t : TunLoopState ω κ,
      tunLoop env dnsHijack dnsTtlSeconds runtime stop k (s.renew runtime) = (.ok true, t) →
        t.IsFresh runtime) :
    sharedTunLoop env dnsHijack dnsTtlSeconds shared stop pkts s =
      ((tunLoop env dnsHijack dnsTtlSeconds runtime stop pkts (s.renew runtime)).1,
        (tunLoop env dnsHijack dnsTtlSeconds runtime stop pkts (s.renew runtime)).2.scopeEnd env) := by
  induction pkts generalizing s with
  | zero => rfl
  | succ pkts ih =>
    have hworld : (s.renew runtime : TunLoopState ω κ).relay.world.net.world = s.net.world := rfl
    unfold sharedTunLoop tunLoop
    rw [hworld]
    by_cases hstop : stop s.net.world = true
    · rw [if_pos hstop, if_pos hstop]
      rfl
    · rw [if_neg hstop, if_neg hstop]
      rcases hturn : tunLoopTurn env dnsHijack dnsTtlSeconds runtime (s.renew runtime) with
        ⟨out, t⟩
      have hsharedTurn : sharedTunLoopTurn env dnsHijack dnsTtlSeconds shared s =
          (out, t.scopeEnd env) := by
        simp only [sharedTunLoopTurn, hshared, hturn]
      cases out with
      | error error => simp only [Program.bind, hturn, hsharedTurn]
      | ok _ =>
        simp only [Program.bind, hturn, hsharedTurn]
        cases pkts with
        | zero => rfl
        | succ pkts =>
          -- the turn was not the last one, so its state is fresh and the induction goes on from it
          have hone : tunLoop env dnsHijack dnsTtlSeconds runtime stop 1 (s.renew runtime) =
              (.ok true, t) := by
            simp only [tunLoop, hworld, if_neg hstop, Program.bind, hturn, Program.pure]
          have ht : t.IsFresh runtime := hfresh 1 (by omega) (by omega) t hone
          rw [ih (t.scopeEnd env), renew_scopeEnd ht]
          rw [renew_scopeEnd ht]
          intro k hk hlt u hu
          refine hfresh (k + 1) (by omega) (by omega) u ?_
          simp only [tunLoop, hworld, if_neg hstop, Program.bind, hturn]
          exact hu

/-- The two loops agree if between any two packets of the plain one there is nothing to lose. -/
theorem shared_loop_eq_plain_loop (hshared : ∀ world, shared world = some runtime) (maxPackets : ℕ)
    (net : Logged ω NetEvent)
    (hfresh : ∀ k, 0 < k → k < maxPackets → ∀ t : TunLoopState ω κ,
      tunLoop env dnsHijack dnsTtlSeconds runtime stop k
        ((startSessions runtime net).renew runtime) = (.ok true, t) → t.IsFresh runtime) :
    runManagedTunPacketLoopSharedRuntimeUntilStop env dnsHijack dnsTtlSeconds shared maxPackets stop
        net =
      runManagedTunPacketLoopIoUntilStop env dnsHijack dnsTtlSeconds runtime maxPackets stop net := by
  have hloop := sharedTunLoop_eq hshared maxPackets (startSessions runtime net) hfresh
  unfold runManagedTunPacketLoopSharedRuntimeUntilStop runManagedTunPacketLoopIoUntilStop
  simp only [hshared, hloop]

end

/-- A device that reads from a list, and what was written to it and to the one server there is. -/
structure TunScript where
  packets : List Bytes
  written : List Bytes
  upstream : Bytes
  deriving DecidableEq

def unreachable {α : Type} : Io TunScript α := fail ⟨.connectionRefused, "no server"⟩

def tunScriptEnvironment : TunEnvironment TunScript Unit where
  network := {
    now := fun script => (0, script)
    toSocketAddrs := fun _ _ => unreachable
    connectTimeout := fun _ _ => Program.pure ()
    setNodelay := fun _ => Program.pure ()
    peerAddr := fun _ => unreachable
    bindUdp := fun _ => unreachable
    setReadTimeout := fun _ _ => unreachable
    setWriteTimeout := fun _ _ => unreachable
    sendTo := fun _ _ _ => unreachable
    recvFrom := fun _ _ => unreachable }
  protocols := {
    handshake := fun _ _ _ _ => unreachable
    quicConnect := fun _ _ _ _ _ => unreachable
    exchange := fun _ _ _ _ _ => unreachable
    mieruExchange := fun _ _ _ _ _ => unreachable
    buildRuntime := unreachable
    quicExchange := fun _ _ _ _ _ _ => unreachable
    socks5UdpAssociate := fun _ _ => unreachable
    encryptUdpPacket := fun _ _ _ => unreachable
    decryptUdpPacket := fun _ _ => unreachable }
  ipText := decimalIpText
  readPacket := fun script => (.ok script.packets.head?, { script with packets := script.packets.tail })
  writePacket := fun packet script => (.ok (), { script with written := script.written ++ [packet] })
  setNonblockingMode _ := Program.pure ()
  writeAll _ bytes script := (.ok (), { script with upstream := script.upstream ++ bytes })
  flush _ := Program.pure ()
  read _ _ script := .notReady 30000 script (.failed "connection reset" script)
  shutdownWrite _ := Program.pure ()
  shutdownBoth _ := Program.pure ()
  drop _ script := script
  sleep _ script := script
  text := ⟨fun _ => "key", fun _ => "action"⟩

def directRuntime (defaultAction : RouteAction) : MixedProxyRuntime where
  routes := ⟨[], defaultAction⟩
  relayOptions := ⟨none, none⟩
  outbounds := ⟨[], fun _ _ => none⟩
  dnsOptions := ⟨.allowSystem, .dualStack, 60000⟩
  tunTcpMaxActiveSessions := 16

def clientPacket (sequence acknowledgment flags : UInt8) (payload : Bytes) : Bytes :=
  [0x45, 0, 0, 40 + UInt8.ofNat payload.length, 0, 0, 0, 0, 64, 6, 0, 0, 10, 0, 0, 2, 192, 0, 2, 1,
    192, 0, 1, 187, 0, 0, 0, sequence, 0, 0, 0, acknowledgment, 0x50, flags, 0x40, 0, 0, 0, 0, 0] ++
    payload

def handshakeAndData : List Bytes :=
  [clientPacket 100 0 0x02 [], clientPacket 101 2 0x10 [], clientPacket 101 2 0x18 [104, 105]]

/-- Two blocked `SYN`s are answered alike. -/
theorem shared_loop_eq_plain_loop_blocked :
    let runtime := directRuntime .block
    let start : Logged TunScript NetEvent :=
      ⟨⟨[clientPacket 100 0 0x02 [], clientPacket 200 0 0x02 []], [], []⟩, []⟩
    let plain := runManagedTunPacketLoopIoUntilStop tunScriptEnvironment true 60 runtime 2
      (fun _ => false) start
    plain.2.world.written.length = 2 ∧
      runManagedTunPacketLoopSharedRuntimeUntilStop tunScriptEnvironment true 60
        (fun _ => some runtime) 2 (fun _ => false) start = plain := by
  intro runtime start plain
  refine ⟨by decide +kernel, shared_loop_eq_plain_loop (fun _ => rfl) 2 start ?_⟩
  intro k hk hlt t ht
  obtain rfl : k = 1 := by omega
  obtain rfl : (tunLoop tunScriptEnvironment true 60 runtime (fun _ => false) 1
      ((startSessions runtime start).renew runtime)).2 = t := by rw [ht]
  exact ⟨rfl, fun resolver => by cases resolver <;> rfl⟩

/-- The shared loop has dropped the connection that the handshake opened. -/
theorem shared_loop_loses_connection :
    let runtime := directRuntime .direct
    let start : Logged TunScript NetEvent := ⟨⟨handshakeAndData, [], []⟩, []⟩
    let plain := runManagedTunPacketLoopIoUntilStop tunScriptEnvironment true 60 runtime 3
      (fun _ => false) start
    let shared := runManagedTunPacketLoopSharedRuntimeUntilStop tunScriptEnvironment true 60
      (fun _ => some runtime) 3 (fun _ => false) start
    plain.2.world.upstream = [104, 105] ∧ plain.2.world.written.length = 2 ∧
      shared.2.world.upstream = [] ∧ shared.2.world.written.length = 1 := by
  decide +kernel

end KeliNative.Client
