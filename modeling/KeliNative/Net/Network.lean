import KeliNative.Lib.Effects
import KeliNative.Net.Io

/-!
# The network (`std::net`)

The network calls, over a world about which nothing is assumed.
-/

namespace KeliNative

inductive NetEvent where
  | lookup (host : String)
  | connect (address : SocketAddr)
  | send (address : SocketAddr)
  /-- A datagram of a SOCKS5 client, sent on the shared socket. -/
  | forward (client address : SocketAddr)
  /-- A datagram read from the shared socket. -/
  | arrive (source : SocketAddr) (answers : Option ℕ)
  /-- The same datagram, handed to a SOCKS5 client. -/
  | reply (client source : SocketAddr) (answers : Option ℕ)
  deriving DecidableEq

def Duration.fromSecs (seconds : ℕ) : Duration := seconds * 1000

/-- What `recv_from` gives. No code reads `answers`: the number of the datagram this one is an
answer to. -/
structure Received where
  payload : Bytes
  source : SocketAddr
  answers : Option ℕ
  deriving DecidableEq

/-- The operating system as far as the source calls it. A `κ` is a connection or a socket. -/
structure Network (ω κ : Type) where
  now : ω → Instant × ω
  toSocketAddrs : String → UInt16 → Io ω (List SocketAddr)
  connectTimeout : SocketAddr → Duration → Io ω κ
  setNodelay : κ → Io ω Unit
  peerAddr : κ → Io ω SocketAddr
  bindUdp : SocketAddr → Io ω κ
  setReadTimeout : κ → Duration → Io ω Unit
  setWriteTimeout : κ → Duration → Io ω Unit
  sendTo : κ → Bytes → SocketAddr → Io ω ℕ
  recvFrom : κ → ℕ → Io ω Received

abbrev Net (ω ε α : Type) := Program (Logged ω NetEvent) ε α

def IpAddr.unspecified : IpAddr → IpAddr
  | .v4 _ => .v4 ⟨0, 0, 0, 0⟩
  | .v6 _ => .v6 ⟨List.replicate 16 0, List.length_replicate⟩

def IpAddr.isUnspecified (ip : IpAddr) : Bool := ip == ip.unspecified

def bindAddrFor (address : SocketAddr) : SocketAddr := ⟨address.ip.unspecified, 0⟩

namespace Network

variable {ω κ ε : Type} (network : Network ω κ)

def instantNow : Net ω ε Instant := .quietly fun world =>
  let (now, world) := network.now world
  (.ok now, world)

def lookup (host : String) (port : UInt16) : Net ω IoError (List SocketAddr) :=
  .perform (.lookup host) (network.toSocketAddrs host port)

def connect (address : SocketAddr) (timeout : Duration) : Net ω IoError κ :=
  .perform (.connect address) (network.connectTimeout address timeout)

def send (socket : κ) (payload : Bytes) (address : SocketAddr) : Net ω IoError ℕ :=
  .perform (.send address) (network.sendTo socket payload address)

end Network

end KeliNative
