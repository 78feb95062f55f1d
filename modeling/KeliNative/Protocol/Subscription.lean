import KeliNative.Protocol.Profile

/-!
# Subscriptions (`keli-protocol/src/lib.rs`)

A Mihomo YAML document or a list of share links, plain or in base64.
-/

namespace KeliNative.Protocol
open Text
open Outbound (Endpoint)

structure SkippedOutboundProfile where
  name : String
  reason : String
  deriving DecidableEq

structure ParsedOutboundProfiles where
  profiles : List OutboundProfile
  skipped : List SkippedOutboundProfile
  deriving DecidableEq

inductive SubscriptionParseError where
  | invalidYaml (error : String)
  | invalidShare (error : String)
  deriving DecidableEq

def SubscriptionParseError.display : SubscriptionParseError → String
  | .invalidYaml error => "invalid Mihomo YAML: " ++ error
  | .invalidShare error => "invalid share links: " ++ error

inductive SubscriptionInputFormat where
  | mihomoYaml
  | shareLinks
  deriving DecidableEq

structure MihomoWsOptions where
  path : Option String := none
  /-- The entries of the map, in the order it is walked. -/
  headers : Option (List (String × String)) := none

structure MihomoHttpUpgradeOptions where
  path : Option String := none
  host : Option String := none

inductive StringList where
  | one (value : String)
  | many (values : List String)

structure MihomoH2Options where
  path : Option String := none
  host : Option StringList := none

structure MihomoQuicOptions where
  security : Option String := none
  key : Option String := none
  header : Option String := none

structure MihomoGrpcOptions where
  grpcServiceName : Option String := none

structure MihomoProxy where
  name : Option String := none
  protocol : Option String := none
  server : Option String := none
  port : Option UInt16 := none
  portRange : Option String := none
  password : Option String := none
  token : Option String := none
  username : Option String := none
  cipher : Option String := none
  uuid : Option String := none
  flow : Option String := none
  tls : Option Bool := none
  sni : Option String := none
  servername : Option String := none
  skipCertVerify : Option Bool := none
  network : Option String := none
  transport : Option String := none
  wsOpts : Option MihomoWsOptions := none
  httpupgradeOpts : Option MihomoHttpUpgradeOptions := none
  h2Opts : Option MihomoH2Options := none
  quicOpts : Option MihomoQuicOptions := none
  grpcOpts : Option MihomoGrpcOptions := none

structure MihomoConfig where
  proxies : List MihomoProxy

/-- The values of `serde_json` that are told apart here; a number is what `as_u64` gives. -/
inductive JsonValue where
  | bool (value : Bool)
  | number (asU64 : Option ℕ)
  | string (value : String)
  | other

structure VmessJsonShare where
  ps : Option String
  add : Option String
  port : Option JsonValue
  id : Option String
  net : Option String
  host : Option String
  path : Option String
  serviceName : Option String
  tls : Option String
  sni : Option String
  servername : Option String
  scy : Option String
  cipher : Option String
  allowInsecure : Option JsonValue

structure Url where
  scheme : String
  username : String
  password : Option String
  hostStr : Option String
  port : Option UInt16
  queryPairs : List (String × String)
  fragment : Option String

inductive Base64Engine where
  | standard
  | urlSafe
  | urlSafeNoPad
  deriving DecidableEq

/-- The libraries that read the document formats. An error is its text. -/
structure Readers where
  yaml : String → Except String MihomoConfig
  json : List UInt8 → Except String VmessJsonShare
  url : String → Except String Url
  base64 : Base64Engine → List UInt8 → Except String (List UInt8)
  /-- The text of the error for bytes that are not UTF-8. -/
  utf8Error : List UInt8 → String

def nonEmpty (value : Option String) : Option String := (value.map trim).filter (!·.isEmpty)

def skip (name reason : String) : SkippedOutboundProfile := ⟨name, reason⟩

def required (name reason : String) (value : Option String) :
    Except SkippedOutboundProfile String :=
  match value with
  | some value => .ok value
  | none => .error (skip name reason)

def requiredPort (name : String) (port : Option UInt16) : Except SkippedOutboundProfile UInt16 :=
  match port with
  | some port => .ok port
  | none => .error (skip name "missing port")

def validated (name : String) (profile : OutboundProfile) :
    Except SkippedOutboundProfile OutboundProfile :=
  match profile.validate with
  | .ok () => .ok profile
  | .error error => .error (skip name ("invalid profile: " ++ error.display))

def proxyCredential (username password : Option String) : String :=
  match nonEmpty username, nonEmpty password with
  | some username, some password => username ++ ":" ++ password
  | some username, none => username
  | none, some password => ":" ++ password
  | none, none => ""

def defaultQuicTransport : TransportKind := .quic none none none

def firstPortInRange (value : String) : Option UInt16 := do
  let first ← ((split ',' value).map trim).find? (!·.isEmpty)
  let first := ((splitOnce '-' first).map (·.1)).getD first
  parseU16 (trim first)

def profilePort (port : Option UInt16) (portRange : Option String) : Option UInt16 :=
  port <|> portRange.bind firstPortInRange

def headerValueCaseInsensitive (headers : List (String × String)) (name : String) :
    Option String :=
  headers.findSome? fun (key, value) =>
    if toAsciiLowercase key = toAsciiLowercase name then nonEmpty (some value) else none

def StringList.firstNonEmpty : StringList → Option String
  | .one value => nonEmpty (some value)
  | .many values => values.findSome? fun value => nonEmpty (some value)

def tlsByDefault (protocol : ProxyProtocol) : Bool :=
  protocol ∈ [.trojan, .hy2, .anyTls, .tuic, .naive]

/-! ### Mihomo YAML -/

def mihomoProtocol (protocolName : String) : Option ProxyProtocol :=
  if protocolName = "trojan" then some .trojan
  else if protocolName = "vmess" then some .vmess
  else if protocolName = "vless" then some .vless
  else if protocolName = "naive" then some .naive
  else if protocolName = "mieru" then some .mieru
  else if protocolName ∈ ["hy2", "hysteria2"] then some .hy2
  else if protocolName ∈ ["ss", "shadowsocks"] then some .shadowsocks
  else if protocolName ∈ ["anytls", "any-tls"] then some .anyTls
  else if protocolName = "tuic" then some .tuic
  else if protocolName ∈ ["socks", "socks5"] then some .socks
  else if protocolName = "http" then some .http
  else none

def mihomoCredential (name : String) (protocol : ProxyProtocol) (proxy : MihomoProxy) :
    Except SkippedOutboundProfile String :=
  match protocol with
  | .trojan => required name "missing trojan password" (nonEmpty proxy.password)
  | .vmess => required name "missing vmess uuid" (nonEmpty proxy.uuid)
  | .vless => required name "missing vless uuid" (nonEmpty proxy.uuid)
  | .naive => do
      let username ← required name "missing naive username" (nonEmpty proxy.username)
      let password ← required name "missing naive password" (nonEmpty proxy.password)
      return username ++ ":" ++ password
  | .mieru => do
      let username ← required name "missing mieru username" (nonEmpty proxy.username)
      let password ← required name "missing mieru password" (nonEmpty proxy.password)
      return username ++ ":" ++ password
  | .shadowsocks => required name "missing shadowsocks password" (nonEmpty proxy.password)
  | .anyTls => required name "missing anytls password" (nonEmpty proxy.password)
  | .hy2 => required name "missing hy2 auth password" (nonEmpty proxy.password)
  | .tuic => do
      let uuid ← required name "missing tuic uuid" (nonEmpty proxy.uuid)
      let password ← required name "missing tuic password"
        (nonEmpty proxy.password <|> nonEmpty proxy.token)
      return uuid ++ ":" ++ password
  | .socks | .http => .ok (proxyCredential proxy.username proxy.password)

def quicOnlyTransport (name network : String) : Except SkippedOutboundProfile TransportKind :=
  if network ∈ ["", "quic", "hy2", "hysteria2", "tuic"] then .ok defaultQuicTransport
  else .error (skip name ("unsupported QUIC transport: " ++ network))

def mieruTransport (name network : String) : Except SkippedOutboundProfile TransportKind :=
  if network ∈ ["", "tcp"] then .ok .tcp
  else .error (skip name ("unsupported Mieru transport: " ++ network))

def mihomoQuicTransport (opts : Option MihomoQuicOptions) : TransportKind :=
  match opts with
  | some opts => .quic (nonEmpty opts.security) (nonEmpty opts.key) (nonEmpty opts.header)
  | none => .quic none none none

def mihomoTransport (name server : String) (protocol : ProxyProtocol) (network : Option String)
    (proxy : MihomoProxy) : Except SkippedOutboundProfile TransportKind :=
  if protocol ∈ [.hy2, .tuic] then quicOnlyTransport name ((network.map toAsciiLowercase).getD "")
  else if protocol = .mieru then mieruTransport name ((network.map toAsciiLowercase).getD "tcp")
  else
    let network := toAsciiLowercase (network.getD "tcp")
    if network ∈ ["", "tcp"] then .ok .tcp
    else if network ∈ ["ws", "websocket"] then
      let path := (proxy.wsOpts.bind fun opts => nonEmpty opts.path).getD "/"
      let host := ((proxy.wsOpts.bind (·.headers)).bind
        fun headers => headerValueCaseInsensitive headers "host") <|> some server
      .ok (.webSocket path host)
    else if network ∈ ["httpupgrade", "http-upgrade"] then
      let path := (proxy.httpupgradeOpts.bind fun opts => nonEmpty opts.path).getD "/"
      let host := (proxy.httpupgradeOpts.bind fun opts => nonEmpty opts.host) <|> some server
      .ok (.httpUpgrade path host)
    else if network ∈ ["h2", "http", "http2"] then
      let path := (proxy.h2Opts.bind fun opts => nonEmpty opts.path).getD "/"
      let host := ((proxy.h2Opts.bind (·.host)).bind StringList.firstNonEmpty) <|> some server
      .ok (.http2 path host)
    else if network = "quic" then .ok (mihomoQuicTransport proxy.quicOpts)
    else if network = "grpc" then
      .ok (.grpc (proxy.grpcOpts.bind fun opts => nonEmpty opts.grpcServiceName))
    else .error (skip name ("unsupported transport: " ++ network))

def mihomoSecurity (protocol : ProxyProtocol) (server : String) (proxy : MihomoProxy) :
    SecurityKind :=
  if proxy.tls.getD (tlsByDefault protocol) then
    .tls (nonEmpty proxy.sni <|> nonEmpty proxy.servername <|> some server)
      (proxy.skipCertVerify.getD false)
  else .none

def numbered (kind : String) (index : ℕ) : String := kind ++ "-" ++ toString (index + 1)

def mihomoProxyToProfile (proxy : MihomoProxy) (index : ℕ) :
    Except SkippedOutboundProfile OutboundProfile := do
  let name := (nonEmpty proxy.name).getD (numbered "proxy" index)
  let protocolName ← required name "missing protocol type" (nonEmpty proxy.protocol)
  let server ← required name "missing server" (nonEmpty proxy.server)
  let protocolName := toAsciiLowercase protocolName
  let some protocol := mihomoProtocol protocolName
    | .error (skip name ("unsupported protocol: " ++ protocolName))
  let credential ← mihomoCredential name protocol proxy
  let cipher := if protocol ∈ [.shadowsocks, .vmess] then nonEmpty proxy.cipher else none
  let flow := if protocol = .vless then nonEmpty proxy.flow else none
  let port ← requiredPort name (profilePort proxy.port proxy.portRange)
  let transport ← mihomoTransport name server protocol (proxy.network <|> proxy.transport) proxy
  let security := mihomoSecurity protocol server proxy
  validated name ⟨name, protocol, ⟨server, port⟩, transport, security, credential, cipher, flow⟩

def ParsedOutboundProfiles.push (parsed : ParsedOutboundProfiles) :
    Except SkippedOutboundProfile OutboundProfile → ParsedOutboundProfiles
  | .ok profile => { parsed with profiles := parsed.profiles ++ [profile] }
  | .error skipped => { parsed with skipped := parsed.skipped ++ [skipped] }

def collectProfiles {α : Type} (convert : α → ℕ → Except SkippedOutboundProfile OutboundProfile)
    (entries : List α) : ParsedOutboundProfiles :=
  entries.zipIdx.foldl (fun parsed entry => parsed.push (convert entry.1 entry.2)) ⟨[], []⟩

/-! ### Share links -/

/-- The map got from the pairs of a query: a later pair replaces an earlier one. -/
def queryGet (query : List (String × String)) (key : String) : Option String :=
  query.reverse.lookup key

def queryNonEmpty (query : List (String × String)) (key : String) : Option String :=
  nonEmpty (queryGet query key)

/-- The first of the keys that is present decides, even if its value is blank. -/
def queryFirstNonEmpty (query : List (String × String)) (keys : List String) : Option String :=
  nonEmpty (keys.findSome? (queryGet query))

def isTruthy (value : String) : Bool := toAsciiLowercase value ∈ ["1", "true", "yes"]

def truthyQuery (query : List (String × String)) (key : String) : Bool :=
  ((queryGet query key).map isTruthy).getD false

def jsonValueToU16 : JsonValue → Option UInt16
  | .number (some port) => if port < 65536 then some (UInt16.ofNat port) else none
  | .string value => parseU16 (trim value)
  | _ => none

def truthyJsonValue : JsonValue → Bool
  | .bool value => value
  | .number number => number.getD 0 != 0
  | .string value => isTruthy value
  | .other => false

def shareLinkQuicTransport (query : List (String × String)) : TransportKind :=
  .quic
    (queryFirstNonEmpty query ["quicSecurity", "quic-security", "quic_security", "encryption"])
    (queryFirstNonEmpty query ["quicKey", "quic-key", "quic_key", "key"])
    (queryFirstNonEmpty query ["headerType", "header-type", "header_type", "quicHeaderType",
      "quic-header-type", "quic_header_type", "header"])

def shareLinkTransport (tag server : String) (protocol : ProxyProtocol)
    (query : List (String × String)) : Except SkippedOutboundProfile TransportKind :=
  let network := (queryGet query "type" <|> queryGet query "network").map toAsciiLowercase
  if protocol ∈ [.hy2, .tuic] then quicOnlyTransport tag (network.getD "")
  else if protocol = .mieru then
    mieruTransport tag (((queryGet query "protocol").map toAsciiLowercase <|> network).getD "tcp")
  else
    let network := network.getD "tcp"
    let path := (queryNonEmpty query "path").getD "/"
    let host := queryNonEmpty query "host" <|> some server
    if network ∈ ["", "tcp"] then .ok .tcp
    else if network ∈ ["ws", "websocket"] then .ok (.webSocket path host)
    else if network ∈ ["httpupgrade", "http-upgrade"] then .ok (.httpUpgrade path host)
    else if network ∈ ["h2", "http", "http2"] then .ok (.http2 path host)
    else if network = "quic" then .ok (shareLinkQuicTransport query)
    else if network = "grpc" then
      .ok (.grpc (queryFirstNonEmpty query ["serviceName", "service_name", "service-name", "path"]))
    else .error (skip tag ("unsupported transport: " ++ network))

def shareLinkSecurity (protocol : ProxyProtocol) (server : String)
    (query : List (String × String)) : SecurityKind :=
  let security := (queryGet query "security" <|> queryGet query "tls").map toAsciiLowercase
  let tlsEnabled := (security.map fun value => decide (value ∈ ["tls", "true", "1"])).getD
    (tlsByDefault protocol)
  if tlsEnabled then
    .tls (nonEmpty (queryGet query "sni" <|> queryGet query "servername") <|> some server)
      (truthyQuery query "allowInsecure" || truthyQuery query "skip-cert-verify" ||
        truthyQuery query "insecure")
  else .none

def shareLinkPort (protocol : ProxyProtocol) (url : Url) : Option UInt16 :=
  match protocol with
  | .mieru => url.port <|> (queryGet url.queryPairs "port").bind firstPortInRange
  | .socks => some (url.port.getD 1080)
  | .http => some (url.port.getD 80)
  | _ => some (url.port.getD 443)

def shareLinkProtocol (scheme : String) : Option ProxyProtocol :=
  if scheme = "trojan" then some .trojan
  else if scheme = "vmess" then some .vmess
  else if scheme = "vless" then some .vless
  else if scheme = "naive" then some .naive
  else if scheme ∈ ["mieru", "mierus"] then some .mieru
  else if scheme ∈ ["hy2", "hysteria2"] then some .hy2
  else if scheme ∈ ["anytls", "any-tls"] then some .anyTls
  else if scheme = "tuic" then some .tuic
  else if scheme ∈ ["socks", "socks5"] then some .socks
  else if scheme = "http" then some .http
  else none

def shareLinkCredential (tag : String) (protocol : ProxyProtocol) (url : Url) :
    Except SkippedOutboundProfile String :=
  let username := nonEmpty (some url.username)
  let password := nonEmpty url.password
  match protocol with
  | .tuic => do
      let uuid ← required tag "missing tuic uuid" username
      let password ← required tag "missing tuic password" password
      return uuid ++ ":" ++ password
  | .naive => do
      let username ← required tag "missing naive username" username
      let password ← required tag "missing naive password" password
      return username ++ ":" ++ password
  | .mieru => do
      let username ← required tag "missing mieru username" username
      let password ← required tag "missing mieru password" password
      return username ++ ":" ++ password
  | .socks | .http => .ok (proxyCredential (some url.username) url.password)
  | _ => required tag "missing credential" username

def linkBody (body : String) : String :=
  let body := (split '#' body).headD body
  (split '?' body).headD body

def splitHostPort (value : String) (defaultPort : UInt16) : Option (String × UInt16) :=
  let value := trim value
  if value.isEmpty then none
  else match stripped "[" value with
    | some inside => do
        let (host, rest) ← splitOnce ']' inside
        return (host, ((stripped ":" rest).bind parseU16).getD defaultPort)
    | none =>
        if value.toList.count ':' = 1 then do
          let (host, port) ← rsplitOnce ':' value
          return (host, (parseU16 port).getD defaultPort)
        else some (value, defaultPort)

def vmessJsonTransport (tag server : String) (config : VmessJsonShare) :
    Except SkippedOutboundProfile TransportKind :=
  let network := toAsciiLowercase ((nonEmpty config.net).getD "tcp")
  let path := (nonEmpty config.path).getD "/"
  let host := nonEmpty config.host <|> some server
  if network ∈ ["", "tcp"] then .ok .tcp
  else if network ∈ ["ws", "websocket"] then .ok (.webSocket path host)
  else if network ∈ ["httpupgrade", "http-upgrade"] then .ok (.httpUpgrade path host)
  else if network ∈ ["h2", "http", "http2"] then .ok (.http2 path host)
  else if network = "quic" then .ok defaultQuicTransport
  else if network = "grpc" then .ok (.grpc (nonEmpty config.serviceName <|> nonEmpty config.path))
  else .error (skip tag ("unsupported VMess JSON transport: " ++ network))

def vmessJsonSecurity (server : String) (config : VmessJsonShare) : SecurityKind :=
  let tlsEnabled := ((nonEmpty config.tls).map
    fun tls => decide (toAsciiLowercase tls ∈ ["tls", "true", "1"])).getD false
  if tlsEnabled then
    .tls (nonEmpty config.sni <|> nonEmpty config.servername <|> some server)
      ((config.allowInsecure.map truthyJsonValue).getD false)
  else .none

def vmessJsonProfile (config : VmessJsonShare) (index : ℕ) :
    Except SkippedOutboundProfile OutboundProfile := do
  let tag := (nonEmpty config.ps).getD (numbered "proxy" index)
  let server ← required tag "missing server" (nonEmpty config.add)
  let port ← requiredPort tag (config.port.bind jsonValueToU16)
  let credential ← required tag "missing vmess uuid" (nonEmpty config.id)
  let transport ← vmessJsonTransport tag server config
  let cipher := nonEmpty config.scy <|> nonEmpty config.cipher <|> some "auto"
  validated tag ⟨tag, .vmess, ⟨server, port⟩, transport, vmessJsonSecurity server config,
    credential, cipher, none⟩

namespace Readers

variable (readers : Readers)

def decodeBase64Flexible (input : String) : Except String (List UInt8) :=
  match readers.base64 .standard (utf8 input) with
  | .ok bytes => .ok bytes
  | .error _ => match readers.base64 .urlSafeNoPad (utf8 input) with
    | .ok bytes => .ok bytes
    | .error _ => readers.base64 .urlSafe (utf8 input)

def looksLikeMihomoYaml (input : String) : Bool :=
  (lines input).any fun line => startsWith "proxies:" (trimStart line)

def detectSubscriptionInputFormat (input : String) : SubscriptionInputFormat :=
  if looksLikeMihomoYaml input then .mihomoYaml else .shareLinks

def parseMihomoOutboundProfiles (input : String) :
    Except SubscriptionParseError ParsedOutboundProfiles :=
  match readers.yaml input with
  | .error error => .error (.invalidYaml error)
  | .ok config => .ok (collectProfiles mihomoProxyToProfile config.proxies)

def shadowsocksUserinfo (url : Url) : Option (String × String) :=
  if url.username.isEmpty then none
  else match url.password with
    | some password => some (url.username, password)
    | none => do
        let decoded ← (readers.decodeBase64Flexible url.username).toOption
        let decoded ← fromUtf8 decoded
        splitOnce ':' decoded

def decodeLegacyShadowsocksShareBody (link : String) :
    Option (String × String × String × UInt16) := do
  let body ← stripped "ss://" link
  let decoded ← (readers.decodeBase64Flexible (linkBody body)).toOption
  let decoded ← fromUtf8 decoded
  let (methodPassword, serverPort) ← rsplitOnce '@' decoded
  let (cipher, password) ← splitOnce ':' methodPassword
  let (server, port) ← splitHostPort serverPort 8388
  return (cipher, password, server, port)

def shadowsocksShareParts (tag : String) (url : Url) (link : String) :
    Except SkippedOutboundProfile (String × String × String × UInt16) :=
  match url.hostStr with
  | some server =>
      match readers.shadowsocksUserinfo url with
      | some (cipher, password) => .ok (cipher, password, server, url.port.getD 8388)
      | none => .error (skip tag "missing shadowsocks method/password")
  | none =>
      match readers.decodeLegacyShadowsocksShareBody link with
      | some decoded => .ok decoded
      | none => .error (skip tag "invalid shadowsocks share body")

def shadowsocksShareLinkToProfile (url : Url) (link : String) (index : ℕ) :
    Except SkippedOutboundProfile OutboundProfile := do
  let tag := (nonEmpty url.fragment).getD (numbered "proxy" index)
  let (cipher, credential, server, port) ← readers.shadowsocksShareParts tag url link
  validated tag ⟨tag, .shadowsocks, ⟨server, port⟩, .tcp, .none, credential, some cipher, none⟩

/-- A `vmess://` link whose body is a JSON document; `none` for any other link. -/
def vmessJsonShareLinkToProfile (link : String) (index : ℕ) :
    Except SkippedOutboundProfile (Option OutboundProfile) :=
  match stripped "vmess://" link with
  | none => .ok none
  | some body =>
      if contains "@" body then .ok none
      else match readers.decodeBase64Flexible (linkBody body) with
        | .error error => .error (skip (numbered "proxy" index) error)
        | .ok bytes => match readers.json bytes with
          | .error error => .error (skip (numbered "proxy" index) error)
          | .ok config => (vmessJsonProfile config index).map some

def urlProfile (url : Url) (index : ℕ) : Except SkippedOutboundProfile OutboundProfile := do
  let query := url.queryPairs
  let tag := (nonEmpty url.fragment <|> queryNonEmpty query "profile").getD (numbered "proxy" index)
  let server ← required tag "missing server" url.hostStr
  let some protocol := shareLinkProtocol url.scheme
    | .error (skip tag ("unsupported protocol: " ++ url.scheme))
  let credential ← shareLinkCredential tag protocol url
  let port ← requiredPort tag (shareLinkPort protocol url)
  let transport ← shareLinkTransport tag server protocol query
  let security := shareLinkSecurity protocol server query
  let flow := if protocol = .vless then queryNonEmpty query "flow" else none
  let cipher := if protocol = .vmess then queryNonEmpty query "cipher" else none
  validated tag ⟨tag, protocol, ⟨server, port⟩, transport, security, credential, cipher, flow⟩

def shareLinkToProfile (link : String) (index : ℕ) :
    Except SkippedOutboundProfile OutboundProfile := do
  match ← readers.vmessJsonShareLinkToProfile link index with
  | some profile => return profile
  | none =>
      match readers.url link with
      | .error error => .error (skip (numbered "link" index) error)
      | .ok url =>
          if url.scheme = "ss" then readers.shadowsocksShareLinkToProfile url link index
          else urlProfile url index

def decodeShareSubscriptionText (input : String) : Except SubscriptionParseError String :=
  if contains "://" input then .ok input
  else
    let compact := String.ofList (input.toList.filter (!isWhitespace ·))
    if compact.isEmpty then .ok ""
    else match readers.decodeBase64Flexible compact with
      | .error error => .error (.invalidShare error)
      | .ok bytes => match fromUtf8 bytes with
        | some text => .ok text
        | none => .error (.invalidShare (readers.utf8Error bytes))

def parseShareOutboundProfiles (input : String) :
    Except SubscriptionParseError ParsedOutboundProfiles := do
  let decoded ← readers.decodeShareSubscriptionText input
  return collectProfiles readers.shareLinkToProfile
    (((lines decoded).map trim).filter (!·.isEmpty))

def parseSubscriptionOutboundProfiles (input : String) :
    Except SubscriptionParseError ParsedOutboundProfiles :=
  match detectSubscriptionInputFormat input with
  | .mihomoYaml => readers.parseMihomoOutboundProfiles input
  | .shareLinks => readers.parseShareOutboundProfiles input

end Readers

/-! ### What is accepted is valid

Every conversion ends in `validated`, whatever came before it. -/

def Validates {ε : Type} (result : Except ε OutboundProfile) : Prop :=
  ∀ profile, result = .ok profile → profile.validate = .ok ()

theorem validates_error {ε : Type} (error : ε) : Validates (.error error) := by
  intro prof h
  cases h

theorem validates_bind {ε α : Type} {step : Except ε α} {next : α → Except ε OutboundProfile}
    (h : ∀ value, Validates (next value)) : Validates (step >>= next) := by
  intro prof hprof
  cases step with
  | error error => cases hprof
  | ok value => exact h value prof hprof

theorem validates_validated (name : String) (prof : OutboundProfile) :
    Validates (validated name prof) := by
  intro accepted h
  unfold validated at h
  cases hvalid : prof.validate with
  | error error => rw [hvalid] at h; cases h
  | ok =>
    rw [hvalid] at h
    cases h
    exact hvalid

theorem validates_mihomoProxyToProfile (proxy : MihomoProxy) (index : ℕ) :
    Validates (mihomoProxyToProfile proxy index) := by
  unfold mihomoProxyToProfile
  refine validates_bind fun protocolName => validates_bind fun server => ?_
  dsimp only
  cases mihomoProtocol (toAsciiLowercase protocolName) with
  | none => exact validates_error _
  | some proto =>
    exact validates_bind fun credential => validates_bind fun port =>
      validates_bind fun transport => validates_validated _ _

theorem validates_vmessJsonProfile (cfg : VmessJsonShare) (index : ℕ) :
    Validates (vmessJsonProfile cfg index) :=
  validates_bind fun _ => validates_bind fun _ => validates_bind fun _ => validates_bind fun _ =>
    validates_validated _ _

theorem validates_urlProfile (url : Url) (index : ℕ) : Validates (Readers.urlProfile url index) := by
  unfold Readers.urlProfile
  refine validates_bind fun server => ?_
  cases shareLinkProtocol url.scheme with
  | none => exact validates_error _
  | some proto =>
    exact validates_bind fun credential => validates_bind fun port =>
      validates_bind fun transport => validates_validated _ _

namespace Readers

variable (readers : Readers)

theorem validates_shadowsocksShareLinkToProfile (url : Url) (link : String) (index : ℕ) :
    Validates (readers.shadowsocksShareLinkToProfile url link index) := by
  unfold shadowsocksShareLinkToProfile
  exact validates_bind fun _ => validates_validated _ _

theorem validate_vmessJsonShareLinkToProfile {link : String} {index : ℕ} {prof : OutboundProfile}
    (h : readers.vmessJsonShareLinkToProfile link index = .ok (some prof)) :
    prof.validate = .ok () := by
  have hform : ∃ cfg, (vmessJsonProfile cfg index).map some = .ok (some prof) := by
    unfold vmessJsonShareLinkToProfile at h
    split at h
    · cases h
    split at h
    · cases h
    split at h
    · cases h
    split at h
    · cases h
    exact ⟨_, h⟩
  obtain ⟨cfg, hconfig⟩ := hform
  cases hprof : vmessJsonProfile cfg index with
  | error error => rw [hprof] at hconfig; cases hconfig
  | ok accepted =>
    rw [hprof] at hconfig
    rw [← Option.some.inj (Except.ok.inj hconfig)]
    exact validates_vmessJsonProfile cfg index accepted hprof

theorem validates_shareLinkToProfile (link : String) (index : ℕ) :
    Validates (readers.shareLinkToProfile link index) := by
  intro prof h
  unfold shareLinkToProfile at h
  cases hjson : readers.vmessJsonShareLinkToProfile link index with
  | error error => rw [hjson] at h; cases h
  | ok found =>
    rw [hjson] at h
    cases found with
    | some found =>
      cases h
      exact readers.validate_vmessJsonShareLinkToProfile hjson
    | none =>
      simp only [bind, Except.bind] at h
      split at h
      · cases h
      · split at h
        · exact readers.validates_shadowsocksShareLinkToProfile _ link index prof h
        · exact validates_urlProfile _ index prof h

end Readers

def ParsedOutboundProfiles.Valid (parsed : ParsedOutboundProfiles) : Prop :=
  ∀ profile ∈ parsed.profiles, profile.validate = .ok ()

theorem ParsedOutboundProfiles.Valid.push {parsed : ParsedOutboundProfiles}
    {res : Except SkippedOutboundProfile OutboundProfile} (h : parsed.Valid)
    (hres : Validates res) : (parsed.push res).Valid := by
  cases res with
  | error skipped => exact h
  | ok accepted =>
    intro prof hmem
    rcases List.mem_append.mp hmem with hmem | hmem
    · exact h prof hmem
    · rw [List.mem_singleton.mp hmem]
      exact hres accepted rfl

theorem valid_collectProfiles {α : Type}
    {convert : α → ℕ → Except SkippedOutboundProfile OutboundProfile}
    (h : ∀ entry index, Validates (convert entry index)) (entries : List α) :
    (collectProfiles convert entries).Valid := by
  unfold collectProfiles
  have hstart : ParsedOutboundProfiles.Valid ⟨[], []⟩ := List.forall_mem_nil _
  generalize (⟨[], []⟩ : ParsedOutboundProfiles) = parsed at hstart
  induction entries.zipIdx generalizing parsed with
  | nil => exact hstart
  | cons entry rest ih => exact ih _ (hstart.push (h entry.1 entry.2))

theorem Readers.validate_of_parse (readers : Readers) {input : String}
    {parsed : ParsedOutboundProfiles}
    (h : readers.parseSubscriptionOutboundProfiles input = .ok parsed) : parsed.Valid := by
  unfold parseSubscriptionOutboundProfiles at h
  split at h
  · unfold parseMihomoOutboundProfiles at h
    split at h
    · cases h
    · cases h
      exact valid_collectProfiles validates_mihomoProxyToProfile _
  · unfold parseShareOutboundProfiles at h
    cases hdecoded : readers.decodeShareSubscriptionText input with
    | error error => rw [hdecoded] at h; cases h
    | ok decoded =>
      rw [hdecoded] at h
      cases h
      exact valid_collectProfiles readers.validates_shareLinkToProfile _

end KeliNative.Protocol
