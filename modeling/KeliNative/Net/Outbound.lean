import KeliNative.Dns.Engine
import KeliNative.Net.Socks5Udp

/-!
# Outbounds (`OutboundRegistry`, `direct.rs`)

A target is reached directly, or over one of the registered proxy protocols.
-/

namespace KeliNative.Outbound
open Route Dns Program

structure Endpoint where
  host : String
  port : UInt16
  deriving DecidableEq

structure UdpRelayResponse where
  source : SocketAddr
  payload : Bytes
  deriving DecidableEq

inductive StreamTransport where
  | tcp
  | tlsTcp
  | ws
  | tlsWs
  | httpupgrade
  | tlsHttpupgrade
  | grpc
  | tlsGrpc
  | h2
  | tlsH2
  | quic
  deriving DecidableEq

inductive OutboundKind where
  | socks5Tcp
  | httpConnect
  | trojan (transport : StreamTransport)
  | vless (transport : StreamTransport)
  | vmess (transport : StreamTransport)
  | shadowsocksTcp
  | anytlsTlsTcp
  | naiveH2Tcp
  | naiveH3Quic
  | mieruTcp
  | hy2
  | tuic
  deriving DecidableEq

structure OutboundRegistry where
  directTags : List String
  server : OutboundKind → String → Option Endpoint

def transports : List StreamTransport :=
  [.tcp, .tlsTcp, .ws, .tlsWs, .httpupgrade, .tlsHttpupgrade, .grpc, .tlsGrpc, .h2, .tlsH2, .quic]

def connectOrder : List OutboundKind :=
  [.socks5Tcp, .httpConnect] ++ transports.map .trojan ++ transports.map .vless ++
    transports.map .vmess ++
    [.shadowsocksTcp, .anytlsTlsTcp, .naiveH2Tcp, .naiveH3Quic, .mieruTcp, .hy2, .tuic]

def udpOrder : List OutboundKind :=
  [.socks5Tcp] ++ transports.map .vmess ++ transports.map .vless ++ transports.map .trojan ++
    [.shadowsocksTcp, .anytlsTlsTcp, .mieruTcp, .hy2, .tuic]

def OutboundRegistry.find (registry : OutboundRegistry) (order : List OutboundKind) (tag : String) :
    Option (OutboundKind × Endpoint) :=
  order.findSome? fun kind => (registry.server kind tag).map fun server => (kind, server)

/-- What the proxy protocols do with a connection, a socket or a packet once they have it. -/
structure Protocols (ω κ : Type) where
  handshake : OutboundKind → String → OutboundTarget → κ → Io ω κ
  quicConnect : OutboundKind → String → OutboundTarget → SocketAddr → Duration → Io ω κ
  exchange : OutboundKind → String → OutboundTarget → Bytes → κ → Io ω (Endpoint × Bytes)
  mieruExchange : String → OutboundTarget → Bytes → Duration → κ →
    Io ω (Socks5Address × UInt16 × Bytes)
  buildRuntime : Io ω Unit
  quicExchange : OutboundKind → String → OutboundTarget → Bytes → SocketAddr → Duration →
    Io ω (Endpoint × Bytes)
  socks5UdpAssociate : String → κ → Io ω Endpoint
  encryptUdpPacket : String → OutboundTarget → Bytes → Io ω Bytes
  decryptUdpPacket : String → Bytes → Io ω (Endpoint × Bytes)

structure Environment (ω κ : Type) where
  network : Network ω κ
  protocols : Protocols ω κ
  ipText : IpText

def Endpoint.display (endpoint : Endpoint) : String :=
  endpoint.host ++ ":" ++ toString endpoint.port.toNat

def noAddressResolved (what : String) : IoError :=
  ⟨.addrNotAvailable, "no address resolved for " ++ what⟩

def bareHost (host : String) : String :=
  Text.trimMatches (fun c => c == '[' || c == ']') (Text.trim host)

section

variable {ω κ : Type} (env : Environment ω κ)

def offline {α : Type} (program : Io ω α) : NetDns ω IoError α := outside (quietly program)

def resolveEndpoint (endpoint : Endpoint) : NetDns ω IoError (List SocketAddr) :=
  resolveSocketAddrs env.network env.ipText endpoint.host endpoint.port

def withSystemEngine {α : Type} (ttl : Duration) (program : NetDns ω IoError α) :
    NetDns ω IoError α := outside (withLocal (DnsEngine.system ttl) program)

def directTcpAttempt (timeout : Duration) (address : SocketAddr) :
    NetDns ω IoError (Except IoError κ) := do
  match ← attempt (outside (env.network.connect address timeout)) with
  | .error error => return .error error
  | .ok stream =>
    offline (env.network.setNodelay stream)
    return .ok stream

def directTcpConnect (target : Endpoint) (timeout : Duration) : NetDns ω IoError κ := do
  let addresses ← resolveEndpoint env target
  tryEach (directTcpAttempt env timeout) addresses (noAddressResolved target.display)

/-- One datagram to one address; `finish` makes the response of what came back. -/
def udpAttempt (packet : Bytes) (timeout : Duration)
    (finish : Received → NetDns ω IoError UdpRelayResponse) (address : SocketAddr) :
    NetDns ω IoError (Except IoError UdpRelayResponse) := do
  match ← attempt (offline (env.network.bindUdp (bindAddrFor address))) with
  | .error error => return .error error
  | .ok socket =>
    offline (env.network.setReadTimeout socket timeout)
    match ← attempt (outside (env.network.send socket packet address)) with
    | .error error => return .error error
    | .ok _ =>
      match ← attempt (offline (env.network.recvFrom socket 65535)) with
      | .error error => return .error error
      | .ok received => return .ok (← finish received)

def directUdpRelay (target : Endpoint) (payload : Bytes) (timeout : Duration) :
    NetDns ω IoError UdpRelayResponse := do
  let addresses ← resolveEndpoint env target
  let finish : Received → NetDns ω IoError UdpRelayResponse := fun response =>
    return ⟨response.source, response.payload⟩
  tryEach (udpAttempt env payload timeout finish) addresses (noAddressResolved target.display)

def OutboundKind.isLegacyQuic : OutboundKind → Bool
  | .trojan .quic | .vless .quic | .vmess .quic => true
  | _ => false

def OutboundKind.isQuic : OutboundKind → Bool
  | .naiveH3Quic | .hy2 | .tuic => true
  | _ => false

def quicAttempt (kind : OutboundKind) (tag : String) (target : OutboundTarget) (timeout : Duration)
    (address : SocketAddr) : NetDns ω IoError (Except IoError κ) :=
  attempt (outside (perform (.connect address)
    (env.protocols.quicConnect kind tag target address timeout)))

def quicConnectEach (kind : OutboundKind) (tag : String) (server : Endpoint)
    (target : OutboundTarget) (timeout : Duration) : NetDns ω IoError κ := do
  let addresses ← resolveEndpoint env server
  tryEach (quicAttempt env kind tag target timeout) addresses (noAddressResolved server.display)

def serverStream (kind : OutboundKind) (tag : String) (server : Endpoint) (target : OutboundTarget)
    (timeout : Duration) : NetDns ω IoError κ :=
  if kind.isLegacyQuic then quicConnectEach env kind tag server target timeout
  else directTcpConnect env server timeout

def outboundConnect (kind : OutboundKind) (tag : String) (server : Endpoint)
    (target : OutboundTarget) (timeout : Duration) : NetDns ω IoError κ :=
  if kind.isQuic then quicConnectEach env kind tag server target timeout
  else do
    let stream ← serverStream env kind tag server target timeout
    offline (env.protocols.handshake kind tag target stream)

def OutboundRegistry.connectWithDns (registry : OutboundRegistry) (tag : String)
    (target : OutboundTarget) (timeout : Duration) : NetDns ω IoError κ :=
  if tag ∈ registry.directTags then directTcpConnect env ⟨target.host, target.port⟩ timeout
  else match registry.find connectOrder tag with
    | some (kind, server) => outboundConnect env kind tag server target timeout
    | none => fail ⟨.unsupported, "outbound tag is not registered: " ++ tag⟩

def firstAddress (what : String) (endpoint : Endpoint) (host : String) :
    NetDns ω IoError SocketAddr := do
  match ← resolveEndpoint env ⟨host, endpoint.port⟩ with
  | [] => fail (noAddressResolved (what ++ " " ++ endpoint.display))
  | address :: _ => return address

def literalOrFirst (what : String) (endpoint : Endpoint) (ttl : Option Duration) :
    NetDns ω IoError SocketAddr :=
  match env.ipText.parse (bareHost endpoint.host) with
  | some ip => .pure ⟨ip, endpoint.port⟩
  | none =>
    match ttl with
    | none => firstAddress env what endpoint (bareHost endpoint.host)
    | some ttl => withSystemEngine ttl (firstAddress env what endpoint (bareHost endpoint.host))

def outboundTargetSocketAddrWithDns (target : OutboundTarget) : NetDns ω IoError SocketAddr :=
  literalOrFirst env "outbound target" ⟨target.host, target.port⟩ none

def outboundTargetSocketAddr (target : OutboundTarget) (timeout : Duration) :
    NetDns ω IoError SocketAddr :=
  literalOrFirst env "outbound target" ⟨target.host, target.port⟩ (some timeout)

def trojanEndpointSocketAddr (endpoint : Endpoint) (timeout : Duration) :
    NetDns ω IoError SocketAddr :=
  literalOrFirst env "Trojan UDP source" endpoint (some timeout)

def socks5UdpRelayAddr (relay : Endpoint) (controlPeer : SocketAddr) (timeout : Duration) :
    NetDns ω IoError SocketAddr := do
  let address ← literalOrFirst env "SOCKS5 UDP relay" relay (some timeout)
  if (env.ipText.parse (bareHost relay.host)).isSome ∧ address.ip.isUnspecified then
    return ⟨controlPeer.ip, address.port⟩
  else return address

def socks5UdpSourceAddr (address : Socks5Address) (port : UInt16) (timeout : Duration) :
    NetDns ω IoError SocketAddr :=
  match address with
  | .ipv4 ip => .pure ⟨.v4 ip, port⟩
  | .ipv6 ip => .pure ⟨.v6 ip, port⟩
  | .domain host => withSystemEngine timeout (firstAddress env "SOCKS5 UDP source" ⟨host, port⟩ host)

def endpointToSocketAddr (endpoint : Endpoint) : NetDns ω IoError SocketAddr :=
  match env.ipText.parse (bareHost endpoint.host) with
  | some ip => .pure ⟨ip, endpoint.port⟩
  | none => fail ⟨.addrNotAvailable, "invalid IP address syntax"⟩

def socks5AddressFromTarget (target : OutboundTarget) : Except IoError Socks5Address :=
  match env.ipText.parse (bareHost target.host) with
  | some ip => .ok (socks5AddressFromIp ip)
  | none =>
    if target.host ≠ "" ∧ (Text.utf8 target.host).length ≤ 255 then .ok (.domain target.host)
    else .error ⟨.invalidInput, "SOCKS5 UDP target domain length is invalid"⟩

def socks5UdpRelay (tag : String) (server : Endpoint) (target : OutboundTarget) (payload : Bytes)
    (timeout : Duration) : NetDns ω IoError UdpRelayResponse := do
  let control ← directTcpConnect env server timeout
  let controlPeer ← offline (env.network.peerAddr control)
  let relay ← offline (env.protocols.socks5UdpAssociate tag control)
  let relay ← socks5UdpRelayAddr env relay controlPeer timeout
  let socket ← offline (env.network.bindUdp (bindAddrFor relay))
  offline (env.network.setReadTimeout socket timeout)
  offline (env.network.setWriteTimeout socket timeout)
  let address ← ofExcept (socks5AddressFromTarget env target)
  let packet ← ofExcept ((encodeSocks5UdpDatagram address target.port payload).mapError fun error =>
    ⟨.invalidInput, error.display⟩)
  let _ ← outside (env.network.send socket packet relay)
  let response ← offline (env.network.recvFrom socket 65535)
  let datagram ← ofExcept ((parseSocks5UdpDatagram response.payload).mapError fun error =>
    ⟨.invalidData, error.display⟩)
  let source ← socks5UdpSourceAddr env datagram.address datagram.port timeout
  return ⟨source, datagram.payload⟩

def shadowsocksUdpRelay (tag : String) (server : Endpoint) (target : OutboundTarget)
    (payload : Bytes) (timeout : Duration) : NetDns ω IoError UdpRelayResponse := do
  let packet ← offline (env.protocols.encryptUdpPacket tag target payload)
  let addresses ← resolveEndpoint env server
  let finish : Received → NetDns ω IoError UdpRelayResponse := fun response => do
    let (source, payload) ← offline (env.protocols.decryptUdpPacket tag response.payload)
    return ⟨← endpointToSocketAddr env source, payload⟩
  tryEach (udpAttempt env packet timeout finish) addresses (noAddressResolved server.display)

def quicUdpAttempt (kind : OutboundKind) (tag : String) (target : OutboundTarget) (payload : Bytes)
    (timeout : Duration) (address : SocketAddr) :
    NetDns ω IoError (Except IoError UdpRelayResponse) := do
  offline env.protocols.buildRuntime
  match ← attempt (outside (perform (.connect address)
      (env.protocols.quicExchange kind tag target payload address timeout))) with
  | .error error => return .error error
  | .ok (source, payload) => return .ok ⟨← endpointToSocketAddr env source, payload⟩

def quicUdpRelay (kind : OutboundKind) (tag : String) (server : Endpoint) (target : OutboundTarget)
    (payload : Bytes) (timeout : Duration) : NetDns ω IoError UdpRelayResponse := do
  let addresses ← resolveEndpoint env server
  tryEach (quicUdpAttempt env kind tag target payload timeout) addresses
    (noAddressResolved server.display)

/-- A datagram in a stream to the server; `sourceOf` says where the reply came from. -/
def streamUdpRelay (kind : OutboundKind) (tag : String) (server : Endpoint)
    (target : OutboundTarget) (payload : Bytes) (timeout : Duration)
    (sourceOf : Endpoint → NetDns ω IoError SocketAddr) : NetDns ω IoError UdpRelayResponse := do
  let stream ← serverStream env kind tag server target timeout
  let (source, response) ← offline (env.protocols.exchange kind tag target payload stream)
  return ⟨← sourceOf source, response⟩

def mieruUdpRelay (tag : String) (server : Endpoint) (target : OutboundTarget) (payload : Bytes)
    (timeout : Duration) : NetDns ω IoError UdpRelayResponse := do
  let stream ← directTcpConnect env server timeout
  let (address, port, response) ←
    offline (env.protocols.mieruExchange tag target payload timeout stream)
  return ⟨← socks5UdpSourceAddr env address port timeout, response⟩

def udpUnsupported (tag : String) : IoError :=
  ⟨.unsupported, "outbound tag does not support UDP relay yet: " ++ tag⟩

def outboundUdpRelay (kind : OutboundKind) (tag : String) (server : Endpoint)
    (target : OutboundTarget) (payload : Bytes) (timeout : Duration) :
    NetDns ω IoError UdpRelayResponse :=
  match kind with
  | .socks5Tcp => socks5UdpRelay env tag server target payload timeout
  | .vmess _ | .vless _ =>
    streamUdpRelay env kind tag server target payload timeout fun _ =>
      outboundTargetSocketAddr env target timeout
  | .trojan _ =>
    streamUdpRelay env kind tag server target payload timeout fun source =>
      trojanEndpointSocketAddr env source timeout
  | .shadowsocksTcp => shadowsocksUdpRelay env tag server target payload timeout
  | .anytlsTlsTcp =>
    streamUdpRelay env kind tag server target payload timeout fun _ =>
      outboundTargetSocketAddrWithDns env target
  | .mieruTcp => mieruUdpRelay env tag server target payload timeout
  | .hy2 | .tuic => quicUdpRelay env kind tag server target payload timeout
  | .httpConnect | .naiveH2Tcp | .naiveH3Quic => fail (udpUnsupported tag)

def OutboundRegistry.relayUdpDatagramWithDns (registry : OutboundRegistry) (tag : String)
    (target : OutboundTarget) (payload : Bytes) (timeout : Duration) :
    NetDns ω IoError UdpRelayResponse :=
  if tag ∈ registry.directTags then directUdpRelay env ⟨target.host, target.port⟩ payload timeout
  else match registry.find udpOrder tag with
    | some (kind, server) => outboundUdpRelay env kind tag server target payload timeout
    | none => fail (udpUnsupported tag)

def OutboundRegistry.relayUdpDatagram (registry : OutboundRegistry) (tag : String)
    (target : OutboundTarget) (payload : Bytes) (timeout : Duration) :
    Net ω IoError UdpRelayResponse :=
  withLocal (DnsEngine.system (Duration.fromSecs 60))
    (registry.relayUdpDatagramWithDns env tag target payload timeout)

end

end KeliNative.Outbound
