import KeliNative.Net.Outbound

/-!
# Outbound profiles (`keli-protocol/src/lib.rs`)

One node of a subscription: how its server is reached and with which credential.
-/

namespace KeliNative.Protocol
open Text
open Outbound (Endpoint)

inductive ProxyProtocol where
  | trojan
  | vmess
  | vless
  | naive
  | mieru
  | hy2
  | shadowsocks
  | anyTls
  | tuic
  | socks
  | http
  deriving DecidableEq

def ProxyProtocol.debug : ProxyProtocol → String
  | .trojan => "Trojan"
  | .vmess => "Vmess"
  | .vless => "Vless"
  | .naive => "Naive"
  | .mieru => "Mieru"
  | .hy2 => "Hy2"
  | .shadowsocks => "Shadowsocks"
  | .anyTls => "AnyTls"
  | .tuic => "Tuic"
  | .socks => "Socks"
  | .http => "Http"

inductive TransportKind where
  | tcp
  | webSocket (path : String) (host : Option String)
  | httpUpgrade (path : String) (host : Option String)
  | http2 (path : String) (host : Option String)
  | grpc (serviceName : Option String)
  | quic (security key headerType : Option String)
  deriving DecidableEq

inductive SecurityKind where
  | none
  | tls (sni : Option String) (skipVerify : Bool)
  deriving DecidableEq

structure OutboundProfile where
  tag : String
  protocol : ProxyProtocol
  endpoint : Endpoint
  transport : TransportKind
  security : SecurityKind
  credential : String
  cipher : Option String
  flow : Option String
  deriving DecidableEq

inductive ProtocolValidationError where
  | missingTag
  | missingServer
  | missingCredential (protocol : ProxyProtocol)
  | missingTls
  | invalidUuid
  | invalidVmessTransport
  | invalidNaiveCredential
  | invalidNaiveTransport
  | invalidMieruCredential
  | invalidMieruTransport
  | invalidWebSocketPath
  | invalidHttpUpgradePath
  | invalidHttp2Path
  | invalidHy2Transport
  | invalidTuicCredential
  | invalidTuicTransport
  | missingShadowsocksCipher
  | invalidShadowsocksCipher
  | invalidShadowsocksTransport
  | invalidAnyTlsTransport
  | invalidSocksTransport
  | invalidHttpTransport
  deriving DecidableEq

def ProtocolValidationError.display : ProtocolValidationError → String
  | .missingTag => "outbound tag is empty"
  | .missingServer => "server host is empty"
  | .missingCredential protocol => protocol.debug ++ " credential is empty"
  | .missingTls => "TLS is required for this profile"
  | .invalidUuid => "proxy credential must be a UUID"
  | .invalidVmessTransport =>
      "VMess supports TCP/WS/HTTPUpgrade/gRPC/H2/QUIC with optional TLS"
  | .invalidNaiveCredential => "Naive credential must be formatted as username:password"
  | .invalidNaiveTransport => "Naive requires TCP or QUIC transport with TLS"
  | .invalidMieruCredential => "Mieru credential must be formatted as username:password"
  | .invalidMieruTransport => "Mieru currently supports TCP transport without TLS"
  | .invalidWebSocketPath => "WebSocket path must start with '/'"
  | .invalidHttpUpgradePath => "HTTPUpgrade path must start with '/'"
  | .invalidHttp2Path => "HTTP/2 path must start with '/'"
  | .invalidHy2Transport => "HY2 requires QUIC transport with TLS"
  | .invalidTuicCredential => "TUIC credential must be formatted as uuid:password"
  | .invalidTuicTransport => "TUIC requires QUIC transport with TLS"
  | .missingShadowsocksCipher => "Shadowsocks cipher is required"
  | .invalidShadowsocksCipher => "Shadowsocks cipher is unsupported"
  | .invalidShadowsocksTransport =>
      "Shadowsocks requires TCP transport without TLS; UDP relay is supported with AEAD ciphers"
  | .invalidAnyTlsTransport => "AnyTLS requires TCP transport with TLS"
  | .invalidSocksTransport => "SOCKS outbound requires TCP transport without TLS"
  | .invalidHttpTransport => "HTTP outbound requires TCP transport without TLS"

def isAsciiHexdigit (byte : UInt8) : Bool :=
  (48 ≤ byte && byte ≤ 57) || (65 ≤ byte && byte ≤ 70) || (97 ≤ byte && byte ≤ 102)

def looksLikeUuid (value : String) : Bool :=
  let bytes := utf8 value
  bytes.length == 36 && bytes.zipIdx.all fun (byte, index) =>
    if index ∈ [8, 13, 18, 23] then byte == 45 else isAsciiHexdigit byte

def isTuicCredential (value : String) : Bool :=
  match splitOnce ':' value with
  | none => false
  | some (uuid, password) => looksLikeUuid (trim uuid) && !(trim password).isEmpty

def isUserPasswordCredential (value : String) : Bool :=
  match splitOnce ':' value with
  | none => false
  | some (username, password) => !(trim username).isEmpty && !(trim password).isEmpty

def isSupportedShadowsocksAeadCipher (cipher : String) : Bool :=
  toAsciiLowercase cipher ∈ ["aes-128-gcm", "aes-256-gcm", "chacha20-ietf-poly1305"]

def checkPath (path : String) (error : ProtocolValidationError) :
    Except ProtocolValidationError Unit :=
  if startsWith "/" path then .ok () else .error error

namespace OutboundProfile

/-- The match over protocol, transport and security at the end of `validate`. -/
def validateTransport (profile : OutboundProfile) : Except ProtocolValidationError Unit :=
  match profile.protocol, profile.transport, profile.security with
  | .trojan, .webSocket path _, _ => checkPath path .invalidWebSocketPath
  | .trojan, .httpUpgrade path _, _ => checkPath path .invalidHttpUpgradePath
  | .trojan, .http2 path _, _ => checkPath path .invalidHttp2Path
  | .trojan, .quic .., _ => .ok ()
  | .trojan, .grpc _, _ => .ok ()
  | .trojan, .tcp, .tls .. => .ok ()
  | .trojan, .tcp, .none => .error .missingTls
  | .vmess, transport, _ =>
      if !looksLikeUuid profile.credential then .error .invalidUuid
      else match transport with
        | .webSocket path _ => checkPath path .invalidWebSocketPath
        | .httpUpgrade path _ => checkPath path .invalidHttpUpgradePath
        | .http2 path _ => checkPath path .invalidHttp2Path
        | _ => .ok ()
  | .vless, transport, _ =>
      -- here the path of a WebSocket is not looked at
      if !looksLikeUuid profile.credential then .error .invalidUuid
      else match transport with
        | .httpUpgrade path _ => checkPath path .invalidHttpUpgradePath
        | .http2 path _ => checkPath path .invalidHttp2Path
        | _ => .ok ()
  | .naive, transport, security =>
      if !isUserPasswordCredential profile.credential then .error .invalidNaiveCredential
      else match transport, security with
        | .tcp, .tls .. => .ok ()
        | .quic .., .tls .. => .ok ()
        | _, .none => .error .missingTls
        | _, _ => .error .invalidNaiveTransport
  | .mieru, transport, security =>
      if !isUserPasswordCredential profile.credential then .error .invalidMieruCredential
      else match transport, security with
        | .tcp, .none => .ok ()
        | _, _ => .error .invalidMieruTransport
  | .hy2, .quic .., .tls .. => .ok ()
  | .hy2, _, _ => .error .invalidHy2Transport
  | .tuic, .quic .., .tls .. =>
      if isTuicCredential profile.credential then .ok () else .error .invalidTuicCredential
  | .tuic, _, _ => .error .invalidTuicTransport
  | .shadowsocks, .tcp, .none =>
      match (profile.cipher.map trim).filter (!·.isEmpty) with
      | none => .error .missingShadowsocksCipher
      | some cipher =>
          if isSupportedShadowsocksAeadCipher cipher then .ok ()
          else .error .invalidShadowsocksCipher
  | .shadowsocks, _, _ => .error .invalidShadowsocksTransport
  | .anyTls, .tcp, .tls .. => .ok ()
  | .anyTls, _, .none => .error .missingTls
  | .anyTls, _, _ => .error .invalidAnyTlsTransport
  | .socks, .tcp, .none => .ok ()
  | .socks, _, _ => .error .invalidSocksTransport
  | .http, .tcp, .none => .ok ()
  | .http, _, _ => .error .invalidHttpTransport

def validate (profile : OutboundProfile) : Except ProtocolValidationError Unit :=
  if (trim profile.tag).isEmpty then .error .missingTag
  else if (trim profile.endpoint.host).isEmpty then .error .missingServer
  else if (trim profile.credential).isEmpty ∧ profile.protocol ∉ [.socks, .http] then
    .error (.missingCredential profile.protocol)
  else profile.validateTransport

theorem validateTransport_of_validate {prof : OutboundProfile} (h : prof.validate = .ok ()) :
    prof.validateTransport = .ok () := by
  unfold validate at h
  split_ifs at h
  exact h

end OutboundProfile

end KeliNative.Protocol
