import KeliNative.Proxy.Runtime

/-!
# Scripted associations

A network for running the proxy on concrete inputs.
-/

namespace KeliNative.Proxy
open Outbound Program

inductive ScriptSocket where
  | relay
  | outbound
  deriving DecidableEq

/-- What is still to come from the client and on the shared socket. -/
structure Script where
  requests : List Received
  arrivals : List Received
  deriving DecidableEq

def nextReceived : List Received → Except IoError Received × List Received
  | [] => (.error ⟨.timedOut, "no datagram"⟩, [])
  | received :: rest => (.ok received, rest)

def scriptRecvFrom : ScriptSocket → Io Script Received
  | .relay => fun script =>
    ((nextReceived script.requests).1, { script with requests := (nextReceived script.requests).2 })
  | .outbound => fun script =>
    ((nextReceived script.arrivals).1, { script with arrivals := (nextReceived script.arrivals).2 })

def noServer {α : Type} : Io Script α := fail ⟨.connectionRefused, "no server"⟩

def scriptNetwork (address : SocketAddr) : Network Script ScriptSocket where
  now script := (0, script)
  toSocketAddrs _ _ := Program.pure [address]
  connectTimeout _ _ := noServer
  setNodelay _ := noServer
  peerAddr _ := noServer
  bindUdp _ := noServer
  setReadTimeout _ _ := noServer
  setWriteTimeout _ _ := noServer
  sendTo _ payload _ := Program.pure payload.length
  recvFrom socket _ := scriptRecvFrom socket

def noProtocols : Protocols Script ScriptSocket where
  handshake _ _ _ _ := noServer
  quicConnect _ _ _ _ _ := noServer
  exchange _ _ _ _ _ := noServer
  mieruExchange _ _ _ _ _ := noServer
  buildRuntime := noServer
  quicExchange _ _ _ _ _ _ := noServer
  socks5UdpAssociate _ _ := noServer
  encryptUdpPacket _ _ _ := noServer
  decryptUdpPacket _ _ := noServer

def scriptEnvironment (address : SocketAddr) : ProxyEnvironment Script ScriptSocket where
  network := scriptNetwork address
  protocols := noProtocols
  ipText := decimalIpText
  emitReport _ script := script
  peek := Program.pure 1

def scriptRuntime (routes : Route.RouteEngine) (dnsOptions : MixedDnsOptions) : MixedProxyRuntime where
  routes := routes
  relayOptions := ⟨none, none⟩
  outbounds := ⟨[], fun _ _ => none⟩
  dnsOptions := dnsOptions
  tunTcpMaxActiveSessions := 1

end KeliNative.Proxy
