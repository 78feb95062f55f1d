import KeliNative.Lib.Effects
import KeliNative.Lib.Text
import KeliNative.Net.IpText

/-!
# TUN devices (`keli-platform/src/lib.rs`)

A ctrl is anything that answers the four calls, each time as it likes.
-/

namespace KeliNative.Platform

inductive PlatformKind where
  | windows
  | android
  | macos
  | linux
  | unknown
  deriving DecidableEq

def PlatformKind.debug : PlatformKind → String
  | .windows => "Windows"
  | .android => "Android"
  | .macos => "Macos"
  | .linux => "Linux"
  | .unknown => "Unknown"

inductive TunDeviceError where
  | unsupportedPlatform (platform : PlatformKind)
  | lifecycleUnavailable (platform : PlatformKind)
  | invalidInterfaceName (name : String)
  | invalidAddressCidr (address : String)
  | invalidMtu (mtu : UInt16)
  | io (error : String)
  deriving DecidableEq

def TunDeviceError.display : TunDeviceError → String
  | .unsupportedPlatform platform => "TUN is unsupported on " ++ platform.debug
  | .lifecycleUnavailable platform =>
      "TUN lifecycle backend is unavailable on " ++ platform.debug
  | .invalidInterfaceName name => "invalid TUN interface name: " ++ name
  | .invalidAddressCidr address => "invalid TUN address CIDR: " ++ address
  | .invalidMtu mtu => "invalid TUN MTU: " ++ toString mtu
  | .io error => "TUN command failed: " ++ error

structure TunDeviceConfig where
  interfaceName : String
  addressCidr : String
  mtu : UInt16
  dnsHijack : Bool
  deriving DecidableEq

structure TunDeviceSnapshot where
  supported : Bool
  lifecycleAvailable : Bool
  packetIoAvailable : Bool
  running : Bool
  interfaceName : Option String
  addressCidr : Option String
  mtu : Option UInt16
  dnsHijack : Option Bool
  deriving DecidableEq

def TunDeviceSnapshot.unsupported : TunDeviceSnapshot :=
  ⟨false, false, false, false, none, none, none, none⟩

def TunDeviceSnapshot.ofRunning (config : TunDeviceConfig) : TunDeviceSnapshot :=
  ⟨true, true, true, true, some config.interfaceName, some config.addressCidr, some config.mtu,
    some config.dnsHijack⟩

structure TunDeviceStatus extends TunDeviceSnapshot where
  error : Option String
  deriving DecidableEq

def TunDeviceStatus.fromSnapshot (snapshot : TunDeviceSnapshot) (error : Option TunDeviceError) :
    TunDeviceStatus := ⟨snapshot, error.map (·.display)⟩

def validateTunInterfaceName (name : String) : Except TunDeviceError Unit :=
  let trimmed := Text.trim name
  if trimmed.isEmpty ∨ 64 < (Text.utf8 trimmed).length ∨ trimmed.toList.any Text.isWhitespace ∨
      '/' ∈ trimmed.toList ∨ '\\' ∈ trimmed.toList ∨ ':' ∈ trimmed.toList then
    .error (.invalidInterfaceName name)
  else .ok ()

def validateTunAddressCidr (ipText : IpText) (addressCidr : String) :
    Except TunDeviceError Unit :=
  match Text.splitOnce '/' addressCidr with
  | none => .error (.invalidAddressCidr addressCidr)
  | some (address, lengthText) =>
      match ipText.parse address, Text.parseBelow 256 lengthText with
      | some (.v4 _), some length =>
          if length > 32 then .error (.invalidAddressCidr addressCidr) else .ok ()
      | some (.v6 _), some length =>
          if length > 128 then .error (.invalidAddressCidr addressCidr) else .ok ()
      | _, _ => .error (.invalidAddressCidr addressCidr)

def validateTunMtu (mtu : UInt16) : Except TunDeviceError Unit :=
  if 1280 ≤ mtu ∧ mtu ≤ 9000 then .ok () else .error (.invalidMtu mtu)

def TunDeviceConfig.validate (ipText : IpText) (config : TunDeviceConfig) :
    Except TunDeviceError Unit := do
  validateTunInterfaceName config.interfaceName
  validateTunAddressCidr ipText config.addressCidr
  validateTunMtu config.mtu

inductive TunDeviceReadiness where
  | ready
  | alreadyRunning
  | runningConflict
  | lifecycleUnavailable
  | packetIoUnavailable
  | unsupported
  | invalidConfig
  | snapshotFailed
  deriving DecidableEq

def TunDeviceReadiness.label : TunDeviceReadiness → String
  | .ready => "ready"
  | .alreadyRunning => "already-running"
  | .runningConflict => "running-conflict"
  | .lifecycleUnavailable => "lifecycle-unavailable"
  | .packetIoUnavailable => "packet-io-unavailable"
  | .unsupported => "unsupported"
  | .invalidConfig => "invalid-config"
  | .snapshotFailed => "snapshot-failed"

def TunDeviceReadiness.isReady : TunDeviceReadiness → Bool
  | .ready | .alreadyRunning => true
  | _ => false

/-- `tun_snapshot_matches_config`, which `keli-cli` has once more as
`managed_tun_snapshot_matches_config`. -/
def tunSnapshotMatchesConfig (snapshot : TunDeviceSnapshot) (config : TunDeviceConfig) : Bool :=
  snapshot.interfaceName = some config.interfaceName ∧
    snapshot.addressCidr = some config.addressCidr ∧ snapshot.mtu = some config.mtu ∧
    snapshot.dnsHijack = some config.dnsHijack

def tunReadinessFromSnapshot (snapshot : TunDeviceSnapshot) (config : TunDeviceConfig) :
    TunDeviceReadiness :=
  if !snapshot.supported then .unsupported
  else if !snapshot.lifecycleAvailable then .lifecycleUnavailable
  else if !snapshot.packetIoAvailable then .packetIoUnavailable
  else if snapshot.running then
    if tunSnapshotMatchesConfig snapshot config then .alreadyRunning else .runningConflict
  else .ready

theorem not_running_of_ready {snapshot : TunDeviceSnapshot} {cfg : TunDeviceConfig}
    (h : tunReadinessFromSnapshot snapshot cfg = .ready) : snapshot.running = false := by
  unfold tunReadinessFromSnapshot at h
  split_ifs at h with _ _ _ hrun
  simpa using hrun

def tunReadinessReason (readiness : TunDeviceReadiness) (snapshot : TunDeviceSnapshot)
    (error : Option TunDeviceError) : Option String :=
  match readiness with
  | .ready => none
  | .alreadyRunning => some "TUN device is already running with the requested config"
  | .runningConflict =>
      some ("TUN device is already running with interface=" ++ snapshot.interfaceName.getD "-" ++
        ", address=" ++ snapshot.addressCidr.getD "-" ++
        ", mtu=" ++ (snapshot.mtu.map toString).getD "-" ++
        ", dns_hijack=" ++ (snapshot.dnsHijack.map toString).getD "-")
  | .lifecycleUnavailable => some "TUN lifecycle backend is unavailable"
  | .packetIoUnavailable => some "TUN packet I/O backend is unavailable"
  | .unsupported => some "TUN is unsupported on this platform"
  | .invalidConfig | .snapshotFailed => error.map (·.display)

structure TunDevicePreflight where
  config : TunDeviceConfig
  status : TunDeviceStatus
  readiness : TunDeviceReadiness
  ready : Bool
  reason : Option String
  deriving DecidableEq

def TunDevicePreflight.fromParts (config : TunDeviceConfig) (status : TunDeviceStatus)
    (readiness : TunDeviceReadiness) (reason : Option String) : TunDevicePreflight :=
  ⟨config, status, readiness, readiness.isReady, reason⟩

structure TunPacketIoController (σ ι : Type) where
  snapshot : Program σ TunDeviceError TunDeviceSnapshot
  start : TunDeviceConfig → Program σ TunDeviceError TunDeviceSnapshot
  stop : Program σ TunDeviceError TunDeviceSnapshot
  openPacketIo : TunDeviceConfig → Program σ TunDeviceError ι

def TunDevicePreflight.ofAnswer (config : TunDeviceConfig) :
    Except TunDeviceError TunDeviceSnapshot → TunDevicePreflight
  | .ok snapshot =>
      let readiness := tunReadinessFromSnapshot snapshot config
      .fromParts config (.fromSnapshot snapshot none) readiness
        (tunReadinessReason readiness snapshot none)
  | .error (.unsupportedPlatform platform) =>
      .fromParts config (.fromSnapshot .unsupported none) .unsupported
        (some (TunDeviceError.unsupportedPlatform platform).display)
  | .error error =>
      .fromParts config (.fromSnapshot .unsupported (some error)) .snapshotFailed
        (some error.display)

def TunDevicePreflight.check {σ ι ε : Type} (ipText : IpText)
    (ctrl : TunPacketIoController σ ι) (config : TunDeviceConfig) :
    Program σ ε TunDevicePreflight :=
  match config.validate ipText with
  | .error error =>
      .pure (.fromParts config (.fromSnapshot .unsupported (some error)) .invalidConfig
        (some error.display))
  | .ok () => do
      let answer ← ctrl.snapshot.attempt
      return .ofAnswer config answer

end KeliNative.Platform
