import KeliNative.Net.Io

/-!
# The relay pump (`relay_owned_bidirectional_with_options`, `keli-net-core/src/direct.rs`)

One loop copies both directions, each through a buffer of its own.
-/

namespace KeliNative.Relay

inductive ConnectionErrorKind where
  | dnsResolveFailed
  | tcpConnectTimeout
  | tcpConnectionRefused
  | firstByteTimeout
  | idleTimeout
  | routeBlocked
  | unsupportedOutbound
  | connectionLimitReached
  | relayIo
  | protocolError
  deriving DecidableEq

def ConnectionErrorKind.fromIo (error : IoError) : ConnectionErrorKind :=
  match error.kind with
  | .timedOut => .tcpConnectTimeout
  | .connectionRefused => .tcpConnectionRefused
  | .addrNotAvailable => .dnsResolveFailed
  | .notFound => .dnsResolveFailed
  | .unsupported => .unsupportedOutbound
  | .invalidData => .protocolError
  | _ => .relayIo

structure RelayError where
  kind : ConnectionErrorKind
  source : IoError
  deriving DecidableEq

def RelayError.fromIo (source : IoError) : RelayError := ⟨.fromIo source, source⟩

/-- The source counts in `u64`. A run counts what it received (`Carried.counted`), so the sums are
the same for up to `2 ^ 64 - 1` bytes. -/
structure RelayStats where
  clientToRemoteBytes : ℕ
  remoteToClientBytes : ℕ
  remoteFirstByteAfter : Option Duration
  deriving DecidableEq

structure RelayOptions where
  firstByteTimeout : Option Duration
  idleTimeout : Option Duration
  deriving DecidableEq

structure PendingWrite where
  bytes : Bytes
  offset : ℕ
  deriving DecidableEq

namespace PendingWrite

def new : PendingWrite := ⟨[], 0⟩

def isEmpty (pending : PendingWrite) : Bool := decide (pending.bytes.length ≤ pending.offset)

def set (bytes : Bytes) : PendingWrite := ⟨bytes, 0⟩

def remaining (pending : PendingWrite) : Bytes := pending.bytes.drop pending.offset

def advance (pending : PendingWrite) (bytes : ℕ) : PendingWrite :=
  let pending := { pending with offset := pending.offset + bytes }
  if pending.isEmpty then new else pending

end PendingWrite

inductive PumpRead where
  | bytes (count : ℕ)
  | eof
  | noProgress
  deriving DecidableEq

def isNonblockingPause (error : IoError) : Bool :=
  error.kind = .wouldBlock || error.kind = .timedOut || error.kind = .interrupted

def isRemoteCleanCloseEof (error : IoError) : Bool :=
  (error.kind = .unexpectedEof && textContains error.message "close_notify") ||
    textContains error.message "stream error received: not a result of an error"

def relayTimeoutError (kind : ConnectionErrorKind) (message : String) : RelayError :=
  ⟨kind, ⟨.timedOut, message⟩⟩

section

variable {ω : Type}

def pumpRead (read : ℕ → Io ω Bytes) (pending : PendingWrite) (bufferLen : ℕ) (eof : Bool) :
    Program ω RelayError (PumpRead × PendingWrite) := fun world =>
  if eof || !pending.isEmpty then (.ok (.noProgress, pending), world)
  else match read bufferLen world with
    | (.ok [], world) => (.ok (.eof, pending), world)
    | (.ok bytes, world) => (.ok (.bytes bytes.length, .set bytes), world)
    | (.error error, world) =>
      if isNonblockingPause error then (.ok (.noProgress, pending), world)
      else if isRemoteCleanCloseEof error then (.ok (.eof, pending), world)
      else (.error (.fromIo error), world)

/- The `while` loop of `pump_write`. Every turn writes at least one byte or leaves the
loop, so as many turns as there are bytes are enough. -/
def pumpWriteLoop (write : Bytes → Io ω ℕ) :
    ℕ → PendingWrite → Bool → Program ω RelayError (Bool × PendingWrite)
  | 0, pending, progressed => fun world => (.ok (progressed, pending), world)
  | turns + 1, pending, progressed => fun world =>
    if pending.isEmpty then (.ok (progressed, pending), world)
    else match write pending.remaining world with
      | (.ok 0, world) =>
        (.error (.fromIo ⟨.writeZero, "relay writer returned zero bytes"⟩), world)
      | (.ok bytes, world) => pumpWriteLoop write turns (pending.advance bytes) true world
      | (.error error, world) =>
        if isNonblockingPause error then (.ok (progressed, pending), world)
        else (.error (.fromIo error), world)

def pumpWrite (write : Bytes → Io ω ℕ) (pending : PendingWrite) :
    Program ω RelayError (Bool × PendingWrite) :=
  pumpWriteLoop write pending.remaining.length pending false

structure RelayEnvironment (ω : Type) where
  client : ByteStream ω
  remote : ByteStream ω
  clock : ω → Instant × ω
  sleep : Duration → ω → ω

structure RelayLoop where
  upload : PendingWrite
  download : PendingWrite
  clientEof : Bool
  remoteEof : Bool
  remoteWriteShutdown : Bool
  clientToRemoteBytes : ℕ
  remoteToClientBytes : ℕ
  remoteFirstByteAfter : Option Duration
  lastRemoteByteAt : Instant
  deriving DecidableEq

def RelayLoop.start (started : Instant) : RelayLoop :=
  ⟨.new, .new, false, false, false, 0, 0, none, started⟩

def RelayLoop.stats (loop : RelayLoop) : RelayStats :=
  ⟨loop.clientToRemoteBytes, loop.remoteToClientBytes, loop.remoteFirstByteAfter⟩

variable (env : RelayEnvironment ω) (options : RelayOptions) (started : Instant)

def elapsed (instant : Instant) : Program ω RelayError Duration := fun world =>
  let (now, world) := env.clock world
  (.ok (now - instant), world)

def readClient (loop : RelayLoop) : Program ω RelayError (RelayLoop × Bool) := do
  let (read, upload) ← pumpRead env.client.read loop.upload (16 * 1024) loop.clientEof
  match read with
  | .bytes bytes =>
    return ({ loop with
      upload := upload, clientToRemoteBytes := loop.clientToRemoteBytes + bytes }, true)
  | .eof => return ({ loop with upload := upload, clientEof := true }, true)
  | .noProgress => return ({ loop with upload := upload }, false)

def readRemote (loop : RelayLoop) : Program ω RelayError (RelayLoop × Bool) := do
  let (read, download) ← pumpRead env.remote.read loop.download (16 * 1024) loop.remoteEof
  match read with
  | .bytes bytes => fun world =>
    let (firstByteAfter, world) := match loop.remoteFirstByteAfter with
      | some duration => (some duration, world)
      | none => (some ((env.clock world).1 - started), (env.clock world).2)
    let (now, world) := env.clock world
    (.ok ({ loop with
      download := download, remoteToClientBytes := loop.remoteToClientBytes + bytes,
      remoteFirstByteAfter := firstByteAfter, lastRemoteByteAt := now }, true), world)
  | .eof => return ({ loop with download := download, remoteEof := true }, true)
  | .noProgress => return ({ loop with download := download }, false)

def writeRemote (loop : RelayLoop) : Program ω RelayError (RelayLoop × Bool) := do
  let (progressed, upload) ← pumpWrite env.remote.write loop.upload
  return ({ loop with upload := upload }, progressed)

def writeClient (loop : RelayLoop) : Program ω RelayError (RelayLoop × Bool) := do
  let (progressed, download) ← pumpWrite env.client.write loop.download
  return ({ loop with download := download }, progressed)

def halfCloseRemote (loop : RelayLoop) : Program ω RelayError RelayLoop :=
  if loop.clientEof && loop.upload.isEmpty && !loop.remoteWriteShutdown then do
    env.remote.shutdownWrite.ignored
    return { loop with remoteWriteShutdown := true }
  else return loop

def failTimedOut (kind : ConnectionErrorKind) (message : String) : Program ω RelayError Unit := do
  env.client.shutdownBoth.ignored
  env.remote.shutdownBoth.ignored
  Program.fail (relayTimeoutError kind message)

/-- `if reference.elapsed() >= timeout` the run is given up, when there is such a timeout. -/
def checkTimeout (timeout : Option Duration) (reference : Instant) (kind : ConnectionErrorKind)
    (message : String) : Program ω RelayError Unit :=
  match timeout with
  | none => return ()
  | some timeout => do
    if timeout ≤ (← elapsed env reference) then failTimedOut env kind message else return ()

def checkTimeouts (loop : RelayLoop) : Program ω RelayError Unit :=
  match loop.remoteFirstByteAfter with
  | none => checkTimeout env options.firstByteTimeout started .firstByteTimeout
      "timed out waiting for remote first byte"
  | some _ => checkTimeout env options.idleTimeout loop.lastRemoteByteAt .idleTimeout
      "remote stream became idle"

/-- What follows the four pumps in a turn; the flag says that the loop is left. -/
def endTurn (loop : RelayLoop) (progressed : Bool) : Program ω RelayError (RelayLoop × Bool) := do
  let loop ← halfCloseRemote env loop
  if loop.remoteEof && loop.download.isEmpty then do
    env.client.shutdownWrite.ignored
    return (loop, true)
  else do
    checkTimeouts env options started loop
    fun world => (.ok (loop, false), if progressed then world else env.sleep 1 world)

def relayTurn (loop : RelayLoop) : Program ω RelayError (RelayLoop × Bool) := do
  let (loop, fromClient) ← readClient env loop
  let (loop, fromRemote) ← readRemote env started loop
  let (loop, toRemote) ← writeRemote env loop
  let (loop, toClient) ← writeClient env loop
  endTurn env options started loop (fromClient || fromRemote || toRemote || toClient)

def closeBoth : Program ω RelayError Unit := do
  env.remote.shutdownBoth.ignored
  env.client.shutdownBoth.ignored

def relayLoop : ℕ → RelayLoop → Program ω RelayError (Option RelayStats)
  | 0, _ => return none
  | turns + 1, loop => do
    let (loop, left) ← relayTurn env options started loop
    if left then do
      closeBoth env
      return some loop.stats
    else relayLoop turns loop

def liftIo {α : Type} (program : Io ω α) : Program ω RelayError α := fun world =>
  let (result, world) := program world
  (result.mapError .fromIo, world)

def relayOwnedBidirectionalWithOptions (turns : ℕ) : Program ω RelayError (Option RelayStats) := do
  liftIo (env.client.setNonblockingMode true)
  liftIo (env.remote.setNonblockingMode true)
  fun world =>
    let (started, world) := env.clock world
    relayLoop env options started turns (.start started) world

end

end KeliNative.Relay
