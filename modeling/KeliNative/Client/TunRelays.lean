import KeliNative.Proxy.Runtime
import KeliNative.Tun.Device
import KeliNative.Tun.RegistryRelay

/-!
# The relays of the managed packet loops

What the packet loops hand to `process_tun_device_packet_with_relays`.
-/

namespace KeliNative.Client
open Dns Outbound Program Proxy Route Tun

/-- What the packet loops call: the network and the outbounds, the packets of the device, and the
connections of the TCP relay. -/
structure TunEnvironment (ω κ : Type) extends Environment ω κ where
  readPacket : Program ω String (Option Bytes)
  writePacket : Bytes → Program ω String Unit
  setNonblockingMode : κ → Program ω String Unit
  writeAll : κ → Bytes → Program ω String Unit
  flush : κ → Program ω String Unit
  read : κ → ℕ → ω → ReadAttempt ω
  shutdownWrite : κ → Program ω String Unit
  shutdownBoth : κ → Program ω String Unit
  drop : κ → ω → ω
  sleep : Duration → ω → ω
  text : DebugText

/-- Who asks: the hijacked questions, the UDP relay or the TCP relay. -/
inductive TunResolver where
  | hijack
  | udpRelay
  | tcpRelay
  deriving DecidableEq

structure TunWorld (ω : Type) where
  net : Logged ω NetEvent
  engine : TunResolver → DnsEngine

def TunWorld.fresh {ω : Type} (runtime : MixedProxyRuntime) (net : Logged ω NetEvent) :
    TunWorld ω :=
  ⟨net, fun _ => runtime.dnsOptions.engine⟩

section

variable {ω κ ε α : Type}

def onNet (program : Program ω ε α) : Program (TunWorld ω) ε α := fun world =>
  let (outcome, net) := quietly program world.net
  (outcome, { world with net := net })

def withEngine (resolver : TunResolver) (program : NetDns ω ε α) : Program (TunWorld ω) ε α :=
  fun world =>
    let (outcome, net, engine) := program (world.net, world.engine resolver)
    (outcome, ⟨net, Function.update world.engine resolver engine⟩)

def besideRelay (program : Program (TunWorld ω) ε α) :
    Program (RegistryRelayState (TunWorld ω) κ) ε α := fun state =>
  let (outcome, world) := program state.world
  (outcome, { state with world := world })

def mapAttempts {ω' : Type} (f : ω → ω') : ReadAttempt ω → ReadAttempt ω'
  | .received bytes world => .received bytes (f world)
  | .interrupted rest => .interrupted (mapAttempts f rest)
  | .notReady now world rest => .notReady now (f world) (mapAttempts f rest)
  | .failed error world => .failed error (f world)

variable (env : TunEnvironment ω κ) (runtime : MixedProxyRuntime)

def tunOutbounds : Outbounds (TunWorld ω) κ where
  connectDirect target timeout := mapError IoError.message (withEngine .tcpRelay
    (directTcpConnect env.toEnvironment ⟨target.host, target.port⟩ timeout))
  connectOutbound tag target timeout := mapError IoError.message (withEngine .tcpRelay
    (runtime.outbounds.connectWithDns env.toEnvironment tag target timeout))
  setNonblockingMode connection := onNet (env.setNonblockingMode connection)
  writeAll connection bytes := onNet (env.writeAll connection bytes)
  flush connection := onNet (env.flush connection)
  read connection size world := mapAttempts
    (fun after => { world with net := ⟨after, world.net.events⟩ })
    (env.read connection size world.net.world)
  shutdownWrite connection := onNet (env.shutdownWrite connection)
  shutdownBoth connection := onNet (env.shutdownBoth connection)
  drop connection world :=
    { world with net := ⟨env.drop connection world.net.world, world.net.events⟩ }
  clock world :=
    let (now, after) := env.network.now world.net.world
    (now, { world with net := ⟨after, world.net.events⟩ })

def registryTunUdpRelay : TunUdpRelay (RegistryRelayState (TunWorld ω) κ) where
  relayUdpDatagram target payload := besideRelay (mapError IoError.message (withEngine .udpRelay
    (directUdpRelay env.toEnvironment ⟨target.host, target.port⟩ payload
      runtime.firstByteTimeout)))
  relayOutboundUdpDatagram tag target payload := besideRelay (mapError IoError.message
    (withEngine .udpRelay (runtime.outbounds.relayUdpDatagramWithDns env.toEnvironment tag target
      payload runtime.firstByteTimeout)))

def defaultTunTcpRelayReadBufferSize : ℕ := 16 * 1024

def tunTcpRelay : TunTcpSessionRelay (RegistryRelayState (TunWorld ω) κ) :=
  registryTunTcpSessionRelay (tunOutbounds env runtime) env.text runtime.firstByteTimeout
    defaultTunTcpRelayReadBufferSize

/-- What `process_tun_device_packet_with_relays` is given under the runtime. -/
def tunParts : TunParts (RegistryRelayState (TunWorld ω) κ) where
  readPacket := besideRelay (onNet env.readPacket)
  writePacket packet := besideRelay (onNet (env.writePacket packet))
  resolve host port := besideRelay (withEngine .hijack (resolve env.network env.ipText host port))
  udpRelay := registryTunUdpRelay env runtime
  tcpRelay := tunTcpRelay env runtime
  now state :=
    let (now, world) := (tunOutbounds env runtime).clock state.world
    (now, { state with world := world })

def defaultTunTcpServerInitialSequenceNumber : UInt32 := 1

def defaultTunTcpWindowSize : UInt16 := 0x4000

def tunSettings (dnsHijack : Bool) (dnsTtlSeconds : UInt32) : TunSettings :=
  ⟨runtime.routes, dnsHijack, dnsTtlSeconds, defaultTunTcpServerInitialSequenceNumber,
    defaultTunTcpWindowSize⟩

end

end KeliNative.Client
