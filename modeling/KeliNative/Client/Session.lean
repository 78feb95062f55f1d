import KeliNative.Client.Handle
import KeliNative.Client.TunGuard
import KeliNative.Platform.SystemProxy

/-!
# Sessions and the system proxy (`ManagedMixedSession`, `keli-cli/src/lib.rs`)

The guard of the system proxy is made last when a session starts, and moves with it.
-/

namespace KeliNative.Client
open Platform

variable {σ L ι τ τ' S δ : Type}

structure RuntimeManagedMixedStopDrainDiagnostic where
  activeConnectionsShutdown : ℕ
  workersBeforeShutdown : ℕ
  workersDrained : ℕ
  workersRemaining : ℕ
  drainElapsedMs : ℕ
  drainTimeoutMs : ℕ
  timedOut : Bool
  deriving DecidableEq

def managedMixedStopDrainNote (diagnostic : RuntimeManagedMixedStopDrainDiagnostic) : String :=
  "managed mixed stop drain active_connections_shutdown=" ++
    toString diagnostic.activeConnectionsShutdown ++
    " workers_before_shutdown=" ++ toString diagnostic.workersBeforeShutdown ++
    " workers_drained=" ++ toString diagnostic.workersDrained ++
    " workers_remaining=" ++ toString diagnostic.workersRemaining ++
    " drain_elapsed_ms=" ++ toString diagnostic.drainElapsedMs ++
    " drain_timeout_ms=" ++ toString diagnostic.drainTimeoutMs ++
    " timed_out=" ++ toString diagnostic.timedOut

/-- The listening socket, and the loops that serve it, here or in a thread of their own. -/
structure MixedListeners (σ L τ : Type) where
  bind : String → Io σ L
  localAddr : L → Io σ SocketAddr
  serve : L → Bool → ManagedMixedRuntime → Io σ Unit
  spawn : L → ManagedMixedRuntime → σ → τ × σ
  join : τ → Program σ Unit (Except IoError RuntimeManagedMixedStopDrainDiagnostic)

structure ManagedSystemProxyGuard where
  snapshot : Option SystemProxySnapshot
  config : SystemProxyConfig
  deriving DecidableEq

def ManagedSystemProxyGuard.restore (ctrl : SystemProxyController σ)
    (guard : ManagedSystemProxyGuard) : Program σ String Unit :=
  match guard.snapshot with
  | none => .pure ()
  | some snapshot =>
      (ctrl.restore snapshot).mapError fun error => "restore system proxy: " ++ error.display

/-- `guard.take().map(restore).unwrap_or(Ok(()))`, and whatever comes of it is looked at later. -/
def restoreOptional (ctrl : SystemProxyController σ) :
    Option ManagedSystemProxyGuard → Program σ String (Except String Unit)
  | none => .pure (.ok ())
  | some guard => (guard.restore ctrl).attempt

def systemProxyServerForListener (ipText : IpText) (address : SocketAddr) : String :=
  if address.ip.isUnspecified then
    match address.ip with
    | .v4 _ => (SocketAddr.mk (.v4 .localhost) address.port).display ipText
    | .v6 _ => (SocketAddr.mk (.v6 .localhost) address.port).display ipText
  else address.display ipText

def readListenerAddress (listeners : MixedListeners σ L τ) (listener : L) :
    Program σ String SocketAddr :=
  (listeners.localAddr listener).mapError fun error =>
    "read mixed listener address: " ++ error.message

def bindListener (listeners : MixedListeners σ L τ) (listen : String) : Program σ String L :=
  (listeners.bind listen).mapError fun error =>
    "listen-mixed bind failed on " ++ listen ++ ": " ++ error.message

def applySystemProxyForListener (ipText : IpText) (listeners : MixedListeners σ L τ)
    (ctrl : SystemProxyController σ) (listener : L) (bypass : List String) :
    Program σ String ManagedSystemProxyGuard := do
  let localAddr ← readListenerAddress listeners listener
  let server := systemProxyServerForListener ipText localAddr
  let config ← .ofExcept ((SystemProxyConfig.new server).mapError fun error =>
    "build system proxy config: " ++ error.display)
  let config := config.withBypass bypass
  let snapshot ← (ctrl.apply config).mapError fun error =>
    "apply system proxy: " ++ error.display
  return ⟨some snapshot, config⟩

def listenMixedWithSystemProxyController (ipText : IpText) (listeners : MixedListeners σ L τ)
    (ctrl : SystemProxyController σ) (listen : String) (once : Bool)
    (runtime : ManagedMixedRuntime) (bypass : List String) : Program σ String Unit := do
  let listener ← bindListener listeners listen
  let _ ← readListenerAddress listeners listener
  let guard ← applySystemProxyForListener ipText listeners ctrl listener bypass
  let serveResult ← (listeners.serve listener once runtime).attempt
  let restoreResult ← (guard.restore ctrl).attempt
  match serveResult, restoreResult with
  | .ok (), .ok () => return ()
  | .error serveError, .ok () => .fail ("listen-mixed failed: " ++ serveError.message)
  | .ok (), .error restoreError => .fail restoreError
  | .error serveError, .error restoreError =>
      .fail ("listen-mixed failed: " ++ serveError.message ++ "; " ++ restoreError)

/-- The listener is taken by what consumes the session, so a session has one. -/
structure ManagedMixedSession (δ L : Type) extends ManagedMixedCore δ where
  listener : L
  systemProxyGuard : Option ManagedSystemProxyGuard

/-- A handle with what it owns: the listener's thread, the guard, and the TUN runtime. -/
structure BackgroundHandle (δ τ τ' : Type) extends ManagedMixedHandle δ where
  thread : τ
  systemProxyGuard : Option ManagedSystemProxyGuard
  tunRuntime : Option (ManagedTunBackgroundRuntime τ')

def applyRequested (ipText : IpText) (listeners : MixedListeners σ L τ)
    (ctrl : SystemProxyController σ) (listener : L) (options : ManagedMixedOptions) :
    Program σ String (Option ManagedSystemProxyGuard) :=
  if options.systemProxy then do
    let guard ← applySystemProxyForListener ipText listeners ctrl listener
      options.systemProxyBypass
    return some guard
  else .pure none

def startFromSubscriptionConfigText (env : CoreEnvironment) (listeners : MixedListeners σ L τ)
    (ctrl : SystemProxyController σ) (options : ManagedMixedOptions) (configText : String)
    (now : ℕ → SystemTime) (handles : RuntimeHandles) :
    Program σ String (ManagedMixedSession δ L) := do
  let listener ← bindListener listeners options.listen
  let listenAddr ← readListenerAddress listeners listener
  let core ← .ofExcept (startCore env options configText (listenAddr.display env.texts.ipText) now
    handles)
  let systemProxyGuard ←
    applyRequested env.texts.ipText listeners ctrl listener options
  return { core with listener, systemProxyGuard }

namespace ManagedMixedSession

variable (listeners : MixedListeners σ L τ) (ctrl : SystemProxyController σ)
  (tunCtrl : TunPacketIoController σ ι) (threads : PacketThreads σ ι τ' S)
  (now : ℕ → SystemTime)

def stop (session : ManagedMixedSession δ L) : Program σ String (ClientRuntime δ) := do
  let restoreResult ← restoreOptional ctrl session.systemProxyGuard
  .ofExcept (restoreResult.map fun _ => session.state.stop now)

def serve (once : Bool) (session : ManagedMixedSession δ L) :
    Program σ String (ClientRuntime δ) := do
  let serveResult ← (listeners.serve session.listener once session.runtime).attempt
  let stopResult ← (session.stop ctrl now).attempt
  match serveResult, stopResult with
  | .ok (), .ok state => return state
  | .error serveError, .ok _ => .fail ("listen-mixed failed: " ++ serveError.message)
  | .ok (), .error restoreError => .fail restoreError
  | .error serveError, .error restoreError =>
      .fail ("listen-mixed failed: " ++ serveError.message ++ "; " ++ restoreError)

def serveWithOptionalTunControllerReport (ipText : IpText)
    (tunNote : ManagedTunPacketLoopReport S → String × δ) (once : Bool)
    (tunDevice : Option TunDeviceConfig) (session : ManagedMixedSession δ L) :
    Program σ String (ClientRuntime δ × Option (ManagedTunPacketLoopReport S)) := do
  let serveResult ← (runWithOptionalTunRuntimeBackgroundReport ipText tunCtrl threads
    tunDevice ((listeners.serve session.listener once session.runtime).mapError fun error =>
      "listen-mixed failed: " ++ error.message)).attempt
  let stopResult ← (session.stop ctrl now).attempt
  match serveResult, stopResult with
  | .ok ((), report), .ok state =>
      let noted := report.elim state fun report =>
        state.recordStatusDiagnostic (fun i => now (i + 2)) (tunNote report).1 (tunNote report).2
      return (noted, report)
  | .error serveError, .ok _ => .fail serveError
  | .ok _, .error restoreError => .fail restoreError
  | .error serveError, .error restoreError => .fail (serveError ++ "; " ++ restoreError)

def spawnListener (listeners : MixedListeners σ L τ) (listener : L)
    (runtime : ManagedMixedRuntime) : Program σ String τ := fun s =>
  let (thread, s) := listeners.spawn listener runtime s
  (.ok thread, s)

def spawnBackground (session : ManagedMixedSession δ L) :
    Program σ String (BackgroundHandle δ τ τ') := do
  let thread ← spawnListener listeners session.listener session.runtime
  return { session.toManagedMixedCore.spawnBackground with
    thread
    systemProxyGuard := session.systemProxyGuard
    tunRuntime := none }

/-- The TUN runtime of a device, if there is one; if it does not start, the proxy is restored. -/
def startTunOrRestore (ipText : IpText) (tunDevice : Option TunDeviceConfig)
    (session : ManagedMixedSession δ L) :
    Program σ String (Option (ManagedTunBackgroundRuntime τ')) :=
  match tunDevice with
  | none => .pure none
  | some config => do
      match ← (startManagedTunBackgroundRuntime ipText tunCtrl threads config).attempt with
      | .ok tunRuntime => return some tunRuntime
      | .error error =>
          match ← restoreOptional ctrl session.systemProxyGuard with
          | .ok () => .fail error
          | .error restoreError => .fail (error ++ "; " ++ restoreError)

def spawnBackgroundWithOptionalTunController (ipText : IpText)
    (tunDevice : Option TunDeviceConfig) (session : ManagedMixedSession δ L) :
    Program σ String (BackgroundHandle δ τ τ') := do
  let tunRuntime ← startTunOrRestore ctrl tunCtrl threads ipText tunDevice session
  let thread ← spawnListener listeners session.listener session.runtime
  return { session.toManagedMixedCore.spawnBackground with
    thread
    systemProxyGuard := session.systemProxyGuard
    tunRuntime }

end ManagedMixedSession

namespace BackgroundHandle

/-- The handle after calls that left it `current`; what it owns is moved by `stop` only. -/
def during (handle : BackgroundHandle δ τ τ') (current : ManagedMixedHandle δ) :
    BackgroundHandle δ τ τ' := { handle with toManagedMixedHandle := current }

def serveOutcome : Except Unit (Except IoError RuntimeManagedMixedStopDrainDiagnostic) →
    Except String RuntimeManagedMixedStopDrainDiagnostic
  | .error () => .error "managed mixed listener thread panicked"
  | .ok (.error error) => .error ("managed mixed listener failed: " ++ error.message)
  | .ok (.ok diagnostic) => .ok diagnostic

def stopTun (tunCtrl : TunPacketIoController σ ι) (threads : PacketThreads σ ι τ' S) :
    Option (ManagedTunBackgroundRuntime τ') →
      Program σ String (Except String (Option (ManagedTunPacketLoopReport S)))
  | none => .pure (.ok none)
  | some runtime => do
      let report ← (runtime.stop tunCtrl threads).attempt
      return report.map some

def stoppedState (drain : RuntimeManagedMixedStopDrainDiagnostic → δ)
    (tunNote : ManagedTunPacketLoopReport S → String × δ) (now : ℕ → SystemTime)
    (serveResult : Except String RuntimeManagedMixedStopDrainDiagnostic)
    (tunResult : Except String (Option (ManagedTunPacketLoopReport S)))
    (state : ClientRuntime δ) : ClientRuntime δ :=
  let drained := match serveResult with
    | .ok diagnostic =>
        state.recordStatusDiagnostic now (managedMixedStopDrainNote diagnostic) (drain diagnostic)
    | .error _ => state
  let reported := match tunResult with
    | .ok (some report) =>
        drained.recordStatusDiagnostic (fun i => now (i + 1)) (tunNote report).1 (tunNote report).2
    | _ => drained
  reported.stop fun i => now (i + 2)

def stop (listeners : MixedListeners σ L τ) (ctrl : SystemProxyController σ)
    (tunCtrl : TunPacketIoController σ ι) (threads : PacketThreads σ ι τ' S)
    (drain : RuntimeManagedMixedStopDrainDiagnostic → δ)
    (tunNote : ManagedTunPacketLoopReport S → String × δ) (now : ℕ → SystemTime)
    (handle : BackgroundHandle δ τ τ') : Program σ String (ClientRuntime δ) := do
  let joinResult ← (listeners.join handle.thread).attempt
  let serveResult := serveOutcome joinResult
  let tunResult ← stopTun tunCtrl threads handle.tunRuntime
  let restoreResult ← restoreOptional ctrl handle.systemProxyGuard
  let state := stoppedState drain tunNote now serveResult tunResult handle.state
  match errorsOf [serveResult.map fun _ => (), tunResult.map fun _ => (), restoreResult] with
  | [] => return state
  | errors => .fail ("; ".intercalate errors)

end BackgroundHandle

end KeliNative.Client
