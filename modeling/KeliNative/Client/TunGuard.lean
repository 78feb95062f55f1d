import KeliNative.Lib.Custody
import KeliNative.Platform.TunDevice

/-!
# Starting and stopping the TUN device (`keli-cli/src/lib.rs`)

A device is started unless it already runs, and whoever started it stops it.
-/

namespace KeliNative.Client
open Platform

variable {σ ι τ S α : Type}

structure ManagedTunDeviceGuard where
  config : TunDeviceConfig
  snapshot : TunDeviceSnapshot
  ownsDevice : Bool
  deriving DecidableEq

structure ManagedTunPacketLoopReport (S : Type) where
  config : TunDeviceConfig
  startSnapshot : TunDeviceSnapshot
  stopSnapshot : TunDeviceSnapshot
  ownsDevice : Bool
  summary : S
  deriving DecidableEq

/-- The threads that run the packet loop. Joining one sets its stop flag, and fails if it
panicked. -/
structure PacketThreads (σ ι τ S : Type) where
  spawn : ι → TunDeviceConfig → σ → τ × σ
  join : τ → Program σ Unit (Except String S)

def preflightFailed (preflight : TunDevicePreflight) : String :=
  "TUN preflight failed: status=" ++ preflight.readiness.label ++ " reason=" ++
    preflight.reason.getD "-"

def startTunDevice (ctrl : TunPacketIoController σ ι) (config : TunDeviceConfig) :
    Program σ String ManagedTunDeviceGuard := do
  let snapshot ← (ctrl.start config).mapError fun error =>
    "start TUN device: " ++ error.display
  if !snapshot.running then .fail "start TUN device did not report a running device"
  else if !tunSnapshotMatchesConfig snapshot config then
    .fail "start TUN device returned a different running config"
  else return ⟨config, snapshot, true⟩

def applyTunDeviceForConfig (ipText : IpText) (ctrl : TunPacketIoController σ ι)
    (config : TunDeviceConfig) : Program σ String ManagedTunDeviceGuard := do
  let preflight ← TunDevicePreflight.check ipText ctrl config
  if !preflight.ready then .fail (preflightFailed preflight)
  else match preflight.readiness with
    | .alreadyRunning => return ⟨config, preflight.status.toTunDeviceSnapshot, false⟩
    | .ready => startTunDevice ctrl config
    | _ => .fail (preflightFailed preflight)

def stopTunDevice (ctrl : TunPacketIoController σ ι) : Program σ String TunDeviceSnapshot :=
  ctrl.stop.mapError fun error => "stop TUN device: " ++ error.display

def ManagedTunDeviceGuard.stop (ctrl : TunPacketIoController σ ι)
    (guard : ManagedTunDeviceGuard) : Program σ String TunDeviceSnapshot :=
  if !guard.ownsDevice then .pure guard.snapshot else stopTunDevice ctrl

def applyOptional (ipText : IpText) (ctrl : TunPacketIoController σ ι) :
    Option TunDeviceConfig → Program σ String (Option ManagedTunDeviceGuard)
  | none => .pure none
  | some config => do
      let guard ← applyTunDeviceForConfig ipText ctrl config
      return some guard

/-- `guard.map(|guard| guard.stop().map(Some)).unwrap_or(Ok(None))`, and whatever comes of it is
looked at later. -/
def stopOptional (ctrl : TunPacketIoController σ ι) :
    Option ManagedTunDeviceGuard → Program σ String (Except String (Option TunDeviceSnapshot))
  | none => .pure (.ok none)
  | some guard => do
      let stopped ← (guard.stop ctrl).attempt
      return stopped.map some

def runWithOptionalTunDevice (ipText : IpText) (ctrl : TunPacketIoController σ ι)
    (config : Option TunDeviceConfig) (run : Program σ String Unit) : Program σ String Unit := do
  let guard ← applyOptional ipText ctrl config
  let runResult ← run.attempt
  let stopResult ← stopOptional ctrl guard
  match runResult, stopResult with
  | .ok (), .ok _ => return ()
  | .error runError, .ok _ => .fail runError
  | .ok (), .error stopError => .fail stopError
  | .error runError, .error stopError => .fail (runError ++ "; " ++ stopError)

/-- The packet I/O of a device; if it cannot be opened, a device of ours is stopped again. -/
def openPacketIoOrStop (ctrl : TunPacketIoController σ ι) (config : TunDeviceConfig)
    (ownsDevice : Bool) : Program σ String ι := do
  match ← (ctrl.openPacketIo config).attempt with
  | .ok io => return io
  | .error error =>
      let openError := "open TUN packet I/O: " ++ error.display
      if ownsDevice then
        match ← (stopTunDevice ctrl).attempt with
        | .ok _ => .fail openError
        | .error stopError => .fail (openError ++ "; " ++ stopError)
      else .fail openError

def spawnPacketLoop (threads : PacketThreads σ ι τ S) (io : ι) (config : TunDeviceConfig) :
    Program σ String τ := fun s =>
  let (thread, s) := threads.spawn io config s
  (.ok thread, s)

def openAndSpawn (ctrl : TunPacketIoController σ ι) (threads : PacketThreads σ ι τ S) :
    Option ManagedTunDeviceGuard → Program σ String (Option τ)
  | none => .pure none
  | some guard => do
      let io ← openPacketIoOrStop ctrl guard.config guard.ownsDevice
      let thread ← spawnPacketLoop threads io guard.config
      return some thread

def joined (panicked : String) : Except Unit (Except String S) → Except String S
  | .error () => .error panicked
  | .ok result => result

def joinOptional (threads : PacketThreads σ ι τ S) :
    Option τ → Program σ String (Except String (Option S))
  | none => .pure (.ok none)
  | some thread => do
      let result ← (threads.join thread).attempt
      return (joined "TUN packet loop thread panicked" result).map some

def errorsOf (results : List (Except String Unit)) : List String :=
  results.filterMap fun
    | .ok () => none
    | .error error => some error

def packetLoopReport (guard : Option ManagedTunDeviceGuard) (summary : Option S)
    (stopSnapshot : Option TunDeviceSnapshot) : Option (ManagedTunPacketLoopReport S) :=
  match guard, summary, stopSnapshot with
  | some guard, some summary, some stopSnapshot =>
      some ⟨guard.config, guard.snapshot, stopSnapshot, guard.ownsDevice, summary⟩
  | _, _, _ => none

def runWithOptionalTunRuntimeBackgroundReport (ipText : IpText)
    (ctrl : TunPacketIoController σ ι) (threads : PacketThreads σ ι τ S)
    (config : Option TunDeviceConfig) (run : Program σ String α) :
    Program σ String (α × Option (ManagedTunPacketLoopReport S)) := do
  let guard ← applyOptional ipText ctrl config
  let thread ← openAndSpawn ctrl threads guard
  let runResult ← run.attempt
  let summaryResult ← joinOptional threads thread
  let stopResult ← stopOptional ctrl guard
  match runResult, summaryResult, stopResult with
  | .ok output, .ok summary, .ok stopSnapshot =>
      return (output, packetLoopReport guard summary stopSnapshot)
  | _, _, _ =>
      .fail ("; ".intercalate (errorsOf [runResult.map fun _ => (), summaryResult.map fun _ => (),
        stopResult.map fun _ => ()]))

structure ManagedTunBackgroundRuntime (τ : Type) where
  config : TunDeviceConfig
  startSnapshot : TunDeviceSnapshot
  ownsDevice : Bool
  thread : τ
  deriving DecidableEq

def startManagedTunBackgroundRuntime (ipText : IpText) (ctrl : TunPacketIoController σ ι)
    (threads : PacketThreads σ ι τ S) (config : TunDeviceConfig) :
    Program σ String (ManagedTunBackgroundRuntime τ) := do
  let guard ← applyTunDeviceForConfig ipText ctrl config
  let io ← openPacketIoOrStop ctrl guard.config guard.ownsDevice
  let thread ← spawnPacketLoop threads io guard.config
  return ⟨guard.config, guard.snapshot, guard.ownsDevice, thread⟩

def ManagedTunBackgroundRuntime.stopDevice (ctrl : TunPacketIoController σ ι)
    (runtime : ManagedTunBackgroundRuntime τ) : Program σ String TunDeviceSnapshot :=
  if runtime.ownsDevice then stopTunDevice ctrl else .pure runtime.startSnapshot

/-- A thread that panicked or failed ends the function before the device is stopped. -/
def ManagedTunBackgroundRuntime.stop (ctrl : TunPacketIoController σ ι)
    (threads : PacketThreads σ ι τ S) (runtime : ManagedTunBackgroundRuntime τ) :
    Program σ String (ManagedTunPacketLoopReport S) := do
  let result ← (threads.join runtime.thread).attempt
  let summary ← .ofExcept (joined "managed TUN packet loop thread panicked" result)
  let stopSnapshot ← runtime.stopDevice ctrl
  return ⟨runtime.config, runtime.startSnapshot, stopSnapshot, runtime.ownsDevice, summary⟩

/-! ### What the functions do not touch

Whatever the ctrl, the threads and the closure keep, the functions keep. -/

section
open Program

structure TunKeeps (inv : σ → Prop) (ctrl : TunPacketIoController σ ι)
    (threads : PacketThreads σ ι τ S) : Prop where
  snapshot : Preserves inv ctrl.snapshot
  start (config : TunDeviceConfig) : Preserves inv (ctrl.start config)
  stop : Preserves inv ctrl.stop
  openPacketIo (config : TunDeviceConfig) : Preserves inv (ctrl.openPacketIo config)
  spawn (io : ι) (config : TunDeviceConfig) (s : σ) : inv s → inv (threads.spawn io config s).2
  join (thread : τ) : Preserves inv (threads.join thread)

variable {inv : σ → Prop} {ctrl : TunPacketIoController σ ι} {threads : PacketThreads σ ι τ S}
  (h : TunKeeps inv ctrl threads)
include h

theorem TunKeeps.apply (ipText : IpText) (cfg : TunDeviceConfig) :
    Preserves inv (applyTunDeviceForConfig ipText ctrl cfg) := by
  unfold applyTunDeviceForConfig
  refine preserves_bind ?_ fun preflight => preserves_ite (preserves_fail _) ?_
  · unfold TunDevicePreflight.check
    split
    · exact preserves_pure _
    · exact preserves_bind (preserves_attempt h.snapshot) fun _ => preserves_pure _
  · split
    · exact preserves_pure _
    · unfold startTunDevice
      refine preserves_bind (preserves_mapError (h.start cfg)) fun snapshot => ?_
      exact preserves_ite (preserves_fail _) (preserves_ite (preserves_fail _) (preserves_pure _))
    · exact preserves_fail _

theorem TunKeeps.applyOptional (ipText : IpText) (cfg : Option TunDeviceConfig) :
    Preserves inv (applyOptional ipText ctrl cfg) := by
  cases cfg with
  | none => exact preserves_pure _
  | some cfg =>
    unfold Client.applyOptional
    exact preserves_bind (h.apply ipText cfg) fun _ => preserves_pure _

theorem TunKeeps.stopOptional (guard : Option ManagedTunDeviceGuard) :
    Preserves inv (stopOptional ctrl guard) := by
  cases guard with
  | none => exact preserves_pure _
  | some guard =>
    unfold Client.stopOptional
    refine preserves_bind (preserves_attempt ?_) fun _ => preserves_pure _
    exact preserves_ite (preserves_pure _) (preserves_mapError h.stop)

theorem TunKeeps.openPacketIoOrStop (cfg : TunDeviceConfig) (ownsDevice : Bool) :
    Preserves inv (openPacketIoOrStop ctrl cfg ownsDevice) := by
  unfold Client.openPacketIoOrStop
  refine preserves_bind (preserves_attempt (h.openPacketIo cfg)) fun answer => ?_
  split
  · exact preserves_pure _
  · refine preserves_ite ?_ (preserves_fail _)
    refine preserves_bind (preserves_attempt (preserves_mapError h.stop)) fun stopped => ?_
    split
    · exact preserves_fail _
    · exact preserves_fail _

theorem TunKeeps.openAndSpawn (guard : Option ManagedTunDeviceGuard) :
    Preserves inv (openAndSpawn ctrl threads guard) := by
  cases guard with
  | none => exact preserves_pure _
  | some guard =>
    unfold Client.openAndSpawn
    refine preserves_bind (h.openPacketIoOrStop _ _) fun io => ?_
    exact preserves_bind (h.spawn io guard.config) fun _ => preserves_pure _

theorem TunKeeps.joinOptional (thread : Option τ) :
    Preserves inv (joinOptional threads thread) := by
  cases thread with
  | none => exact preserves_pure _
  | some thread =>
    unfold Client.joinOptional
    exact preserves_bind (preserves_attempt (h.join thread)) fun _ => preserves_pure _

theorem TunKeeps.backgroundReport {run : Program σ String α} (hrun : Preserves inv run)
    (ipText : IpText) (cfg : Option TunDeviceConfig) :
    Preserves inv
      (runWithOptionalTunRuntimeBackgroundReport ipText ctrl threads cfg run) := by
  unfold runWithOptionalTunRuntimeBackgroundReport
  refine preserves_bind (h.applyOptional ipText cfg) fun guard => ?_
  refine preserves_bind (h.openAndSpawn guard) fun thread => ?_
  refine preserves_bind (preserves_attempt hrun) fun runResult => ?_
  refine preserves_bind (h.joinOptional thread) fun summaryResult => ?_
  refine preserves_bind (h.stopOptional guard) fun stopResult => ?_
  split
  · exact preserves_pure _
  · exact preserves_fail _

theorem TunKeeps.startBackground (ipText : IpText) (cfg : TunDeviceConfig) :
    Preserves inv (startManagedTunBackgroundRuntime ipText ctrl threads cfg) := by
  unfold startManagedTunBackgroundRuntime
  refine preserves_bind (h.apply ipText cfg) fun guard => ?_
  refine preserves_bind (h.openPacketIoOrStop _ _) fun io => ?_
  exact preserves_bind (h.spawn io guard.config) fun _ => preserves_pure _

theorem TunKeeps.stopBackground (rt : ManagedTunBackgroundRuntime τ) :
    Preserves inv (rt.stop ctrl threads) := by
  unfold ManagedTunBackgroundRuntime.stop
  refine preserves_bind (preserves_attempt (h.join rt.thread)) fun res => ?_
  refine preserves_bind (preserves_ofExcept _) fun summary => ?_
  refine preserves_bind ?_ fun _ => preserves_pure _
  exact preserves_ite (preserves_mapError h.stop) (preserves_pure _)

end

end KeliNative.Client
