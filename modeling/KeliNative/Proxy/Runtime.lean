import KeliNative.Dns.Wire
import KeliNative.Net.Outbound
import KeliNative.Relay.Pump

/-!
# The mixed proxy (`keli-cli/src/lib.rs`)

What the proxy does with a request once it has been parsed.
-/

namespace KeliNative.Proxy
open Route Dns Outbound Relay Program

structure MixedDnsOptions where
  localResolutionPolicy : DnsLocalResolutionPolicy
  addressFamilyPolicy : DnsAddressFamilyPolicy
  cacheTtl : Duration
  deriving DecidableEq

def MixedDnsOptions.policies (options : MixedDnsOptions) : DnsPolicies :=
  ⟨options.localResolutionPolicy, options.addressFamilyPolicy⟩

def MixedDnsOptions.engine (options : MixedDnsOptions) : DnsEngine :=
  ⟨.new options.cacheTtl, options.policies⟩

structure MixedProxyRuntime where
  routes : RouteEngine
  relayOptions : RelayOptions
  outbounds : OutboundRegistry
  dnsOptions : MixedDnsOptions
  tunTcpMaxActiveSessions : ℕ

def defaultFirstByteTimeout : Duration := Duration.fromSecs 30

def defaultIdleTimeout : Duration := Duration.fromSecs 300

def MixedProxyRuntime.firstByteTimeout (runtime : MixedProxyRuntime) : Duration :=
  runtime.relayOptions.firstByteTimeout.getD defaultFirstByteTimeout

def MixedProxyRuntime.idleTimeout (runtime : MixedProxyRuntime) : Duration :=
  runtime.relayOptions.idleTimeout.getD defaultIdleTimeout

structure ConnectionReport where
  inbound : String
  target : OutboundTarget
  routeAction : RouteAction
  connectMs : Option ℕ
  firstByteMs : Option ℕ
  uploadBytes : ℕ
  downloadBytes : ℕ
  errorKind : Option ConnectionErrorKind
  errorDetail : Option String
  deriving DecidableEq

namespace ConnectionReport

def new (inbound : String) (target : OutboundTarget) (routeAction : RouteAction) :
    ConnectionReport :=
  ⟨inbound, target, routeAction, none, none, 0, 0, none, none⟩

def recordError (report : ConnectionReport) (errorKind : ConnectionErrorKind) : ConnectionReport :=
  { report with errorKind := some errorKind }

def recordErrorDetail (report : ConnectionReport) (errorKind : ConnectionErrorKind)
    (detail : String) : ConnectionReport :=
  let report := report.recordError errorKind
  if Text.trim detail = "" then report else { report with errorDetail := some detail }

end ConnectionReport

structure ProxyEnvironment (ω κ : Type) extends Environment ω κ where
  emitReport : ConnectionReport → ω → ω
  /-- How many bytes a `peek` of one byte on the control stream sees. -/
  peek : Io ω ℕ

inductive RouteConnect (κ : Type) where
  | direct (stream : κ) (routeAction : RouteAction) (connectDuration : Duration)
  | blocked (routeAction : RouteAction)
  | unsupportedOutbound (tag : String) (routeAction : RouteAction)

section

variable {ω κ : Type} (env : ProxyEnvironment ω κ) (runtime : MixedProxyRuntime)

/-- The action of the first rule that matches the target, or the default action. -/
def routeAction (target : OutboundTarget) : RouteAction :=
  (runtime.routes.decideDestination (target.routeDestination env.ipText)).action

def withRuntimeEngine {α : Type} (program : NetDns ω IoError α) : Net ω IoError α :=
  withLocal runtime.dnsOptions.engine program

def timed {α : Type} (program : Net ω IoError α) : Net ω IoError (α × Duration) := do
  let started ← env.network.instantNow
  let a ← program
  let finished ← env.network.instantNow
  return (a, finished - started)

def connectByRoute (target : OutboundTarget) : Net ω IoError (RouteConnect κ) :=
  match routeAction env runtime target with
  | .direct => do
    let (stream, connectDuration) ← timed env (withRuntimeEngine runtime
      (directTcpConnect env.toEnvironment ⟨target.host, target.port⟩ (Duration.fromSecs 10)))
    return .direct stream .direct connectDuration
  | .block => .pure (.blocked .block)
  | .outbound tag => do
    match ← attempt (timed env (withRuntimeEngine runtime
      (runtime.outbounds.connectWithDns env.toEnvironment tag target (Duration.fromSecs 10)))) with
    | .ok (stream, connectDuration) => return .direct stream (.outbound tag) connectDuration
    | .error error =>
      if error.kind = .unsupported then return .unsupportedOutbound tag (.outbound tag)
      else fail error
  | .hijackDns =>
    fail ⟨.unsupported, "hijack-dns route action is not valid for TCP proxy relay"⟩

def emitConnectionReport (report : ConnectionReport) : Net ω IoError Unit :=
  quietly fun world => (.ok (), env.emitReport report world)

def resolveUdpSocketAddr (target : OutboundTarget) : Net ω IoError SocketAddr :=
  match env.ipText.parse target.host with
  | some ip => .pure ⟨ip, target.port⟩
  | none => do
    match ← env.network.lookup target.host target.port with
    | [] => fail (noAddressResolved (Endpoint.display ⟨target.host, target.port⟩))
    | address :: _ => return address

def socks5UdpResponse (responseFrom : SocketAddr) (payload : Bytes) : Except IoError Bytes :=
  (encodeSocks5UdpDatagram (socks5AddressFromIp responseFrom.ip) responseFrom.port payload).mapError
    Socks5Error.toIoError

def sendSocks5UdpResponse (relay : κ) (clientUdpAddr responseFrom : SocketAddr) (payload : Bytes) :
    Net ω IoError Unit := do
  let response ← ofExcept (socks5UdpResponse responseFrom payload)
  let _ ← quietly (env.network.sendTo relay response clientUdpAddr)
  return ()

def socks5UdpResponseSourceForTarget (target : OutboundTarget) : SocketAddr :=
  match env.ipText.parse target.host with
  | some ip => ⟨ip, target.port⟩
  | none => ⟨.v4 ⟨0, 0, 0, 0⟩, target.port⟩

def buildHijackedDnsResponse (payload : Bytes) : NetDns ω IoError Bytes := do
  let question ← ofExcept ((parseDnsQuery payload).mapError fun error =>
    ⟨.invalidData, error.display⟩)
  let (response, _) ← mapError (fun error => ⟨.notFound, error.display⟩)
    (hijackedPayload (resolve env.network env.ipText) question 60)
  return response

def reportFailure (report : ConnectionReport) (error : IoError) : Net ω IoError Unit :=
  emitConnectionReport env (report.recordError (.fromIo error))

def relayOutboundDatagram (relay : κ) (tag : String) (target : OutboundTarget) (payload : Bytes)
    (clientUdpAddr : SocketAddr) (responseTimeout : Duration) (report : ConnectionReport) :
    Net ω IoError Unit := do
  let report := { report with routeAction := .outbound tag }
  match ← attempt (timed env
    (runtime.outbounds.relayUdpDatagram env.toEnvironment tag target payload responseTimeout)) with
  | .error error => reportFailure env report error
  | .ok (response, firstByte) =>
    sendSocks5UdpResponse env relay clientUdpAddr response.source response.payload
    emitConnectionReport env { report with
      uploadBytes := payload.length
      firstByteMs := some firstByte
      downloadBytes := response.payload.length }

def relayHijackedDatagram (relay : κ) (target : OutboundTarget) (payload : Bytes)
    (clientUdpAddr : SocketAddr) (report : ConnectionReport) : Net ω IoError Unit := do
  let report := { report with routeAction := .hijackDns }
  match ← attempt (timed env (withRuntimeEngine runtime (buildHijackedDnsResponse env payload))) with
  | .error error =>
    emitConnectionReport env (report.recordErrorDetail (.fromIo error) error.message)
  | .ok (response, firstByte) =>
    sendSocks5UdpResponse env relay clientUdpAddr (socks5UdpResponseSourceForTarget env target) response
    emitConnectionReport env { report with
      uploadBytes := payload.length
      firstByteMs := some firstByte
      downloadBytes := response.length }

def receiveArrival (outbound : κ) : Net ω IoError Received := fun s =>
  match env.network.recvFrom outbound 65535 s.world with
  | (.error error, world) => (.error error, ⟨world, s.events⟩)
  | (.ok received, world) =>
    (.ok received, ⟨world, s.events ++ [.arrive received.source received.answers]⟩)

def replyToClient (relay : κ) (clientUdpAddr : SocketAddr) (received : Received) :
    Net ω IoError Unit := do
  let response ← ofExcept (socks5UdpResponse received.source received.payload)
  let _ ← perform (.reply clientUdpAddr received.source received.answers)
    (env.network.sendTo relay response clientUdpAddr)
  return ()

def relayDirectDatagram (relay outbound : κ) (target : OutboundTarget) (payload : Bytes)
    (clientUdpAddr : SocketAddr) (report : ConnectionReport) : Net ω IoError Unit := do
  match ← attempt (resolveUdpSocketAddr env target) with
  | .error error => reportFailure env report error
  | .ok remoteAddr =>
    let started ← env.network.instantNow
    match ← attempt (perform (.forward clientUdpAddr remoteAddr)
        (env.network.sendTo outbound payload remoteAddr)) with
    | .error error => reportFailure env report error
    | .ok _ =>
      let report := { report with uploadBytes := payload.length }
      match ← attempt (receiveArrival env outbound) with
      | .error error => reportFailure env report error
      | .ok received =>
        let finished ← env.network.instantNow
        replyToClient env relay clientUdpAddr received
        emitConnectionReport env { report with
          firstByteMs := some (finished - started)
          downloadBytes := received.payload.length }

def relaySocks5UdpDatagram (relay outbound : κ) (request : Bytes) (clientUdpAddr : SocketAddr)
    (responseTimeout : Duration) : Net ω IoError Unit := do
  let datagram ← ofExcept ((parseSocks5UdpDatagram request).mapError Socks5Error.toIoError)
  let target := outboundTargetFromSocks5Udp env.ipText datagram.address datagram.port
  let report := ConnectionReport.new "socks5-udp" target .direct
  match routeAction env runtime target with
  | .direct =>
    relayDirectDatagram env relay outbound target datagram.payload clientUdpAddr report
  | .block =>
    emitConnectionReport env ({ report with routeAction := .block }.recordError .routeBlocked)
  | .outbound tag =>
    relayOutboundDatagram env runtime relay tag target datagram.payload clientUdpAddr
      responseTimeout report
  | .hijackDns =>
    relayHijackedDatagram env runtime relay target datagram.payload clientUdpAddr report

def socks5UdpControlIsClosed : Net ω IoError Bool := do
  match ← attempt (quietly env.peek) with
  | .ok count => return count == 0
  | .error error =>
    if error.kind = .wouldBlock ∨ error.kind = .timedOut then return false
    else if error.kind = .connectionReset then return true
    else fail error

structure SessionClock where
  started : Instant
  lastActivity : Instant
  receivedDatagram : Bool
  deriving DecidableEq

inductive SessionTurn where
  | goesOn (clock : SessionClock)
  | ended
  deriving DecidableEq

def socks5UdpSessionTurn (relay outbound : κ) (firstByteTimeout idleTimeout : Duration)
    (clock : SessionClock) : Net ω IoError SessionTurn := do
  if ← socks5UdpControlIsClosed env then return .ended
  match ← attempt (quietly (env.network.recvFrom relay 65535)) with
  | .ok request =>
    relaySocks5UdpDatagram env runtime relay outbound request.payload request.source firstByteTimeout
    let now ← env.network.instantNow
    return .goesOn { clock with lastActivity := now, receivedDatagram := true }
  | .error error =>
    if error.kind = .wouldBlock ∨ error.kind = .timedOut then
      if ← socks5UdpControlIsClosed env then return .ended
      let timeout := if clock.receivedDatagram then idleTimeout else firstByteTimeout
      let reference := if clock.receivedDatagram then clock.lastActivity else clock.started
      let now ← env.network.instantNow
      if timeout ≤ now - reference then return .ended
      return .goesOn clock
    else fail error

/-- The loop for a number of turns; `none` while it is still running after them. -/
def socks5UdpSessionLoop (relay outbound : κ) (firstByteTimeout idleTimeout : Duration) :
    ℕ → SessionClock → Net ω IoError (Option Unit)
  | 0, _ => .pure none
  | turns + 1, clock => do
    match ← socks5UdpSessionTurn env runtime relay outbound firstByteTimeout idleTimeout clock with
    | .ended => return some ()
    | .goesOn clock =>
      socks5UdpSessionLoop relay outbound firstByteTimeout idleTimeout turns clock

def relaySocks5UdpSession (relay outbound : κ) (firstByteTimeout idleTimeout : Duration)
    (turns : ℕ) : Net ω IoError (Option Unit) := do
  let started ← env.network.instantNow
  socks5UdpSessionLoop env runtime relay outbound firstByteTimeout idleTimeout turns
    ⟨started, started, false⟩

end

end KeliNative.Proxy
