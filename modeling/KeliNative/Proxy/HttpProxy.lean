import KeliNative.Proxy.Runtime
import KeliNative.Relay.PumpHistory

/-!
# The HTTP proxy front end (`http_proxy.rs`, `handle_http_proxy_connection`)

One header is read and sent on rewritten; the rest is left to the relay.
-/

namespace KeliNative.Proxy
open Route Outbound Relay Program

structure HttpProxyRequest where
  method : String
  host : String
  port : UInt16
  pathAndQuery : String
  httpVersion : String
  rewrittenHeader : Bytes
  deriving DecidableEq

inductive HttpProxyError where
  | io (error : String)
  | headerTooLarge
  | invalidUtf8
  | missingRequestLine
  | invalidRequestLine
  | unsupportedScheme (scheme : String)
  | missingHost
  | emptyHost
  | invalidPort (port : String)
  deriving DecidableEq

def HttpProxyError.display : HttpProxyError → String
  | .io error => "HTTP proxy I/O error: " ++ error
  | .headerTooLarge => "HTTP proxy header is too large"
  | .invalidUtf8 => "HTTP proxy header is not valid UTF-8"
  | .missingRequestLine => "HTTP proxy request line is missing"
  | .invalidRequestLine => "HTTP proxy request line is invalid"
  | .unsupportedScheme scheme => "unsupported HTTP proxy URL scheme: " ++ scheme
  | .missingHost => "HTTP proxy request is missing a host"
  | .emptyHost => "HTTP proxy target host is empty"
  | .invalidPort port => "HTTP proxy target port is invalid: " ++ port

def HttpProxyError.toIoError (error : HttpProxyError) : IoError := ⟨.invalidData, error.display⟩

def parsePort (value : String) (defaultPort : UInt16) : Except HttpProxyError UInt16 :=
  if value = "" then .ok defaultPort
  else match Text.parseU16 value with
    | some port => .ok port
    | none => .error (.invalidPort value)

def splitHostPort (value : String) (defaultPort : UInt16) :
    Except HttpProxyError (String × UInt16) :=
  match Text.stripped "[" value with
  | some rest =>
    match Text.splitOnce ']' rest with
    | none => .error .missingHost
    | some (host, rest) => do
      return (host, ← parsePort ((Text.stripped ":" rest).getD "") defaultPort)
  | none =>
    match Text.rsplitOnce ':' value with
    | none => .ok (value, defaultPort)
    | some (host, port) =>
      if ':' ∈ host.toList then .ok (value, defaultPort)
      else do return (host, ← parsePort port defaultPort)

def parseHostPort (value : String) (defaultPort : UInt16) :
    Except HttpProxyError (String × UInt16) := do
  let value := Text.trim value
  if value = "" then throw .emptyHost
  let (host, port) ← splitHostPort value defaultPort
  if Text.trim host = "" then throw .emptyHost
  return (host, port)

def normalizeOriginPath (path : String) : String :=
  if path = "" then "/"
  else if Text.startsWith "/" path then path
  else "/" ++ path

def parseAbsoluteHttpTarget (rest : String) : Except HttpProxyError (String × UInt16 × String) := do
  let (authority, path) := match rest.toList.span (· != '/') with
    | (_, []) => (rest, "/")
    | (authority, path) => (String.ofList authority, String.ofList path)
  let (host, port) ← parseHostPort authority 80
  return (host, port, normalizeOriginPath path)

def findHostHeader (headerText : String) : Option String :=
  ((Text.lines headerText).drop 1).findSome? fun line => do
    let (name, value) ← Text.splitOnce ':' line
    if asciiLowercase name = "host".toList then some (Text.trim value) else none

def rewrittenLines : List (List Char) → String
  | [] => ""
  | [] :: _ => "\r\n"
  | line :: rest => String.ofList line ++ "\r\n" ++ rewrittenLines rest

def rewriteHeader (headerText method pathAndQuery httpVersion : String) : Bytes :=
  Text.utf8 (method ++ " " ++ pathAndQuery ++ " " ++ httpVersion ++ "\r\n" ++
    rewrittenLines ((Text.splitCrlf headerText.toList).drop 1))

def parseTarget (headerText target : String) : Except HttpProxyError (String × UInt16 × String) :=
  match Text.stripped "http://" target with
  | some rest => parseAbsoluteHttpTarget rest
  | none =>
    match Text.splitOnceAt "://".toList target.toList with
    | some (scheme, _) => .error (.unsupportedScheme (String.ofList scheme))
    | none =>
      match findHostHeader headerText with
      | none => .error .missingHost
      | some host => do
        let (host, port) ← parseHostPort host 80
        return (host, port, normalizeOriginPath target)

def parseHttpProxyHeader (header : Bytes) : Except HttpProxyError HttpProxyRequest :=
  match Text.fromUtf8 header with
  | none => .error .invalidUtf8
  | some headerText =>
    match (Text.lines headerText).head? with
    | none => .error .missingRequestLine
    | some requestLine =>
      match Text.splitWhitespace requestLine with
      | [method, target, httpVersion] => do
        let (host, port, pathAndQuery) ← parseTarget headerText target
        return ⟨method, host, port, pathAndQuery, httpVersion,
          rewriteHeader headerText method pathAndQuery httpVersion⟩
      | _ => .error .invalidRequestLine

def httpProxyBadRequestResponse : Bytes := Text.utf8 "HTTP/1.1 400 Bad Request\r\n\r\n"

def httpForbiddenResponse : Bytes := Text.utf8 "HTTP/1.1 403 Forbidden\r\n\r\n"

def maxHttpProxyHeaderBytes : ℕ := 16 * 1024

def headerEnd : Bytes := [13, 10, 13, 10]

/-- The accepted stream and the streams of connections, as far as the handler calls them before it
leaves them to the relay. -/
structure HttpProxyStreams (ω κ : Type) where
  client : ByteStream ω
  /-- `read_exact` with a buffer of one byte. -/
  readByte : Io ω UInt8
  /-- `write_all` to the client. -/
  respond : Bytes → Io ω Unit
  tryClone : Io ω Unit
  upstream : κ → ByteStream ω
  writeAll : κ → Bytes → Io ω Unit
  sleep : Duration → ω → ω

inductive HttpEvent (κ : Type) where
  | received (bytes : Bytes)
  /-- `connect_by_route` has opened a connection for a target. -/
  | opened (target : OutboundTarget) (connection : κ)
  | sent (connection : κ) (bytes : Bytes)
  deriving DecidableEq

abbrev Http (ω κ ε α : Type) := Program (Logged (Logged ω NetEvent) (HttpEvent κ)) ε α

def relayEvents {κ : Type} (connection : κ) : RelayEvent → List (HttpEvent κ)
  | .received .client bytes => [.received bytes]
  | .wrote .remote bytes => [.sent connection bytes]
  | _ => []

def ConnectionErrorKind.asStr : ConnectionErrorKind → String
  | .dnsResolveFailed => "dns_resolve_failed"
  | .tcpConnectTimeout => "tcp_connect_timeout"
  | .tcpConnectionRefused => "tcp_connection_refused"
  | .firstByteTimeout => "first_byte_timeout"
  | .idleTimeout => "idle_timeout"
  | .routeBlocked => "route_blocked"
  | .unsupportedOutbound => "unsupported_outbound"
  | .connectionLimitReached => "connection_limit_reached"
  | .relayIo => "relay_io"
  | .protocolError => "protocol_error"

def relayIoError (error : RelayError) : IoError :=
  ⟨.other, ConnectionErrorKind.asStr error.kind ++ ": " ++ error.source.message⟩

def ConnectionReport.recordConnectDuration (report : ConnectionReport) (duration : Duration) :
    ConnectionReport := { report with connectMs := some duration }

def ConnectionReport.recordRelayStats (report : ConnectionReport) (stats : RelayStats) :
    ConnectionReport :=
  { report with
    uploadBytes := stats.clientToRemoteBytes
    downloadBytes := stats.remoteToClientBytes
    firstByteMs := stats.remoteFirstByteAfter.or report.firstByteMs }

section

variable {ω κ : Type} (env : ProxyEnvironment ω κ) (runtime : MixedProxyRuntime)
  (streams : HttpProxyStreams ω κ)

def silently {ε α : Type} (program : Program ω ε α) : Http ω κ ε α := quietly (quietly program)

def readHeaderByte : Http ω κ HttpProxyError UInt8 :=
  mapError (fun error => .io error.message) (observed (quietly streams.readByte) fun
    | .ok byte => [.received [byte]]
    | .error _ => [])

def readHeaderLoop : ℕ → Bytes → Http ω κ HttpProxyError Bytes
  | 0, _ => fail .headerTooLarge
  | left + 1, header => do
    let byte ← readHeaderByte streams
    let header := header ++ [byte]
    if headerEnd <:+ header then return header else readHeaderLoop left header

def readHeader : Http ω κ HttpProxyError Bytes := readHeaderLoop streams maxHttpProxyHeaderBytes []

def parseHttpProxyRequest : Http ω κ HttpProxyError HttpProxyRequest := do
  let header ← readHeader streams
  ofExcept (parseHttpProxyHeader header)

def openByRoute (target : OutboundTarget) : Http ω κ IoError (RouteConnect κ) :=
  observed (connectByRoute env runtime target) fun
    | .ok (.direct connection _ _) => [.opened target connection]
    | _ => []

def emitHttpReport (report : ConnectionReport) : Http ω κ IoError Unit :=
  quietly (emitConnectionReport env report)

def relayStreams (remote : κ) (turns : ℕ) : Http ω κ RelayError (Option RelayStats) := fun s =>
  let ends : RelayEnvironment ω :=
    ⟨streams.client, streams.upstream remote, env.network.now, streams.sleep⟩
  let (outcome, world, hist) :=
    relayOwnedBidirectionalWithOptions ends.recording runtime.relayOptions turns (s.world.world, [])
  (outcome, ⟨⟨world, s.world.events⟩, s.events ++ hist.flatMap (relayEvents remote)⟩)

def relayWithReport (remote : κ) (report : ConnectionReport) (turns : ℕ) :
    Http ω κ IoError (Option Unit) := do
  match ← attempt (relayStreams env runtime streams remote turns) with
  | .ok none => return none
  | .ok (some stats) =>
    emitHttpReport env (report.recordRelayStats stats)
    return some ()
  | .error error =>
    emitHttpReport env (report.recordError error.kind)
    fail (relayIoError error)

/-- `handle_http_proxy_connection`; no result if the relay still runs after its turns. -/
def handleHttpProxyConnection (turns : ℕ) : Http ω κ IoError (Option Unit) := do
  match ← attempt (parseHttpProxyRequest streams) with
  | .error error =>
    silently (streams.respond httpProxyBadRequestResponse)
    fail error.toIoError
  | .ok request =>
    let target : OutboundTarget := ⟨request.host, request.port⟩
    let report := ConnectionReport.new "http-proxy" target .direct
    match ← attempt (openByRoute env runtime target) with
    | .ok (.direct remote routeAction connectDuration) =>
      let report := { report with routeAction := routeAction }.recordConnectDuration connectDuration
      perform (.sent remote request.rewrittenHeader)
        (quietly (streams.writeAll remote request.rewrittenHeader))
      silently streams.tryClone
      relayWithReport env runtime streams remote report turns
    | .ok (.blocked routeAction) =>
      emitHttpReport env ({ report with routeAction := routeAction }.recordError .routeBlocked)
      silently (streams.respond httpForbiddenResponse)
      return some ()
    | .ok (.unsupportedOutbound tag routeAction) =>
      emitHttpReport env
        ({ report with routeAction := routeAction }.recordError .unsupportedOutbound)
      silently (streams.respond httpProxyBadRequestResponse)
      fail ⟨.unsupported, "outbound route is not implemented: " ++ tag⟩
    | .error error =>
      emitHttpReport env (report.recordError (.fromIo error))
      silently (streams.respond httpProxyBadRequestResponse)
      fail error

end

end KeliNative.Proxy
