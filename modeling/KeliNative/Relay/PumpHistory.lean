import KeliNative.Lib.History
import KeliNative.Relay.Pump

/-!
# What the pump does to its streams

Each pump is described by the events it adds, and every turn keeps an invariant.
-/

namespace KeliNative.Relay
open Program List

inductive Side where
  | client
  | remote
  deriving DecidableEq

inductive RelayEvent where
  | received (side : Side) (bytes : Bytes)
  | endOfFile (side : Side)
  | wrote (side : Side) (bytes : Bytes)
  | shutdownWrite (side : Side)
  | shutdownBoth (side : Side)
  deriving DecidableEq

/-- A read that pauses or fails leaves no event; a clean close is an end of file. -/
def readEvents (side : Side) : Except IoError Bytes → List RelayEvent
  | .ok [] => [.endOfFile side]
  | .ok bytes => [.received side bytes]
  | .error error =>
    if !isNonblockingPause error && isRemoteCleanCloseEof error then [.endOfFile side] else []

def writeEvents (side : Side) (bytes : Bytes) : Except IoError ℕ → List RelayEvent
  | .ok count => [.wrote side (bytes.take count)]
  | .error _ => []

section

variable {ω : Type}

def recordingStream (side : Side) (stream : ByteStream ω) : ByteStream (ω × List RelayEvent) where
  setNonblockingMode mode := (stream.setNonblockingMode mode).recorded fun _ => []
  read bufferLen := (stream.read bufferLen).recorded (readEvents side)
  write bytes := (stream.write bytes).recorded (writeEvents side bytes)
  flush := stream.flush.recorded fun _ => []
  shutdownWrite := stream.shutdownWrite.recorded fun _ => [.shutdownWrite side]
  shutdownBoth := stream.shutdownBoth.recorded fun _ => [.shutdownBoth side]

def RelayEnvironment.recording (env : RelayEnvironment ω) :
    RelayEnvironment (ω × List RelayEvent) where
  client := recordingStream .client env.client
  remote := recordingStream .remote env.remote
  clock := fun (world, hist) => ((env.clock world).1, (env.clock world).2, hist)
  sleep duration := fun (world, hist) => (env.sleep duration world, hist)

end

def RelayEvent.bytesReceived (side : Side) : RelayEvent → Bytes
  | .received side' bytes => if side' = side then bytes else []
  | _ => []

def RelayEvent.bytesWritten (side : Side) : RelayEvent → Bytes
  | .wrote side' bytes => if side' = side then bytes else []
  | _ => []

def receivedFrom (side : Side) (hist : List RelayEvent) : Bytes :=
  hist.flatMap (RelayEvent.bytesReceived side)

def writtenTo (side : Side) (hist : List RelayEvent) : Bytes :=
  hist.flatMap (RelayEvent.bytesWritten side)

theorem receivedFrom_concat (side : Side) (hist : List RelayEvent) (ev : RelayEvent) :
    receivedFrom side (hist ++ [ev]) = receivedFrom side hist ++ ev.bytesReceived side := by
  simp only [receivedFrom, flatMap_append, flatMap_singleton]

theorem writtenTo_concat (side : Side) (hist : List RelayEvent) (ev : RelayEvent) :
    writtenTo side (hist ++ [ev]) = writtenTo side hist ++ ev.bytesWritten side := by
  simp only [writtenTo, flatMap_append, flatMap_singleton]

/-- One moment of a run: prefixes were delivered, and a half-close that happens now is the first one
and in place. -/
structure Faithful (past : List RelayEvent) : Prop where
  toRemote : writtenTo .remote past <+: receivedFrom .client past
  toClient : writtenTo .client past <+: receivedFrom .remote past
  halfClose : ∀ before, past = before ++ [.shutdownWrite .remote] →
    .endOfFile .client ∈ before ∧ writtenTo .remote before = receivedFrom .client before ∧
      .shutdownWrite .remote ∉ before

theorem always_faithful_nil : Always Faithful [] := by
  rw [always_nil]
  refine ⟨prefix_refl _, prefix_refl _, ?_⟩
  intro before h
  exact absurd h.symm (append_ne_nil_of_right_ne_nil before (cons_ne_nil _ _))

/-- One direction: what was read from `source` is what was written to `target` and what is
pending. -/
structure Carried (source target : Side) (pending : PendingWrite) (count : ℕ) (eof : Bool)
    (hist : List RelayEvent) : Prop where
  stream : receivedFrom source hist = writtenTo target hist ++ pending.remaining
  counted : count = (receivedFrom source hist).length
  ended : eof = true → .endOfFile source ∈ hist

structure LoopInvariant (loop : RelayLoop) (hist : List RelayEvent) : Prop where
  faithful : Always Faithful hist
  upload : Carried .client .remote loop.upload loop.clientToRemoteBytes loop.clientEof hist
  download : Carried .remote .client loop.download loop.remoteToClientBytes loop.remoteEof hist
  notHalfClosed : loop.remoteWriteShutdown = false → .shutdownWrite .remote ∉ hist
  notClosed : .shutdownBoth .remote ∉ hist

/-- An error: the pumps' own, before any close of the remote, or a timeout's, after which both
streams were closed. -/
structure LoopFailed (error : RelayError) (hist : List RelayEvent) : Prop where
  faithful : Always Faithful hist
  closed : .shutdownBoth .remote ∉ hist ∨
    (error.kind = .firstByteTimeout ∨ error.kind = .idleTimeout) ∧
      ∃ before, hist = before ++ [.shutdownBoth .client, .shutdownBoth .remote] ∧
        .shutdownBoth .remote ∉ before

namespace PendingWrite

theorem remaining_eq_nil {pending : PendingWrite} (h : pending.isEmpty = true) :
    pending.remaining = [] := by
  rw [isEmpty, decide_eq_true_eq] at h
  exact drop_eq_nil_of_le h

theorem remaining_set (bytes : Bytes) : (set bytes).remaining = bytes := rfl

theorem remaining_advance (pending : PendingWrite) (count : ℕ) :
    (pending.advance count).remaining = pending.remaining.drop count := by
  have hdrop : pending.remaining.drop count = pending.bytes.drop (pending.offset + count) := by
    rw [remaining, drop_drop]
  rw [hdrop, advance]
  split
  next h => exact (remaining_eq_nil h).symm
  next => rfl

end PendingWrite

section

variable {ω : Type}

/-- What a pump that reads from `side` returns and adds to the history. -/
inductive PumpedRead (side : Side) (pending : PendingWrite) (hist : List RelayEvent) :
    PumpRead × PendingWrite → List RelayEvent → Prop
  | bytes {bytes : Bytes} (h : pending.isEmpty = true) :
    PumpedRead side pending hist (.bytes bytes.length, .set bytes)
      (hist ++ [.received side bytes])
  | eof : PumpedRead side pending hist (.eof, pending) (hist ++ [.endOfFile side])
  | noProgress : PumpedRead side pending hist (.noProgress, pending) hist

theorem pumpRead_recorded (side : Side) (stream : ByteStream ω) (pending : PendingWrite)
    (bufferLen : ℕ) (eof : Bool) (s : ω × List RelayEvent) :
    Ensures (pumpRead (recordingStream side stream).read pending bufferLen eof) s
      (Outcome (fun read s' => PumpedRead side pending s.2 read s'.2) fun _ s' => s'.2 = s.2) := by
  obtain ⟨world, hist⟩ := s
  unfold Ensures pumpRead
  by_cases hskip : (eof || !pending.isEmpty) = true
  · rw [if_pos hskip]
    exact .noProgress
  · have hempty : pending.isEmpty = true := by
      rw [Bool.or_eq_true, not_or] at hskip
      simpa using hskip.2
    rw [if_neg hskip]
    rcases hread : stream.read bufferLen world with ⟨out, world'⟩
    have hrun : (recordingStream side stream).read bufferLen (world, hist) =
        (out, world', hist ++ readEvents side out) := recorded_run hread hist
    rw [hrun]
    rcases out with error | _ | ⟨byte, rest⟩
    · dsimp only [readEvents]
      cases isNonblockingPause error with
      | true =>
        rw [Bool.not_true, Bool.false_and, if_neg Bool.false_ne_true, append_nil]
        exact .noProgress
      | false =>
        cases isRemoteCleanCloseEof error with
        | true => exact .eof
        | false => exact append_nil hist
    · exact .eof
    · exact .bytes hempty

inductive PumpedWrites (side : Side) :
    PendingWrite → List RelayEvent → PendingWrite → List RelayEvent → Prop
  | done (pending : PendingWrite) (hist : List RelayEvent) :
    PumpedWrites side pending hist pending hist
  | write {pending pending' : PendingWrite} {hist hist' : List RelayEvent} (count : ℕ)
    (rest : PumpedWrites side (pending.advance count)
      (hist ++ [.wrote side (pending.remaining.take count)]) pending' hist') :
    PumpedWrites side pending hist pending' hist'

theorem pumpWriteLoop_recorded (side : Side) (stream : ByteStream ω) (turns : ℕ)
    (pending : PendingWrite) (progressed : Bool) (s : ω × List RelayEvent) :
    Ensures (pumpWriteLoop (recordingStream side stream).write turns pending progressed) s
      (Outcome (fun res s' => PumpedWrites side pending s.2 res.2 s'.2)
        fun _ s' => ∃ pending', PumpedWrites side pending s.2 pending' s'.2) := by
  induction turns generalizing pending progressed s with
  | zero => exact .done pending s.2
  | succ turns ih =>
    obtain ⟨world, hist⟩ := s
    unfold Ensures pumpWriteLoop
    by_cases hempty : pending.isEmpty = true
    · rw [if_pos hempty]
      exact .done pending hist
    · rw [if_neg hempty]
      rcases hwrite : stream.write pending.remaining world with ⟨out, world'⟩
      have hrun : (recordingStream side stream).write pending.remaining (world, hist) =
          (out, world', hist ++ writeEvents side pending.remaining out) :=
        recorded_run hwrite hist
      rw [hrun]
      rcases out with error | _ | count
      · dsimp only [writeEvents]
        rw [append_nil]
        cases isNonblockingPause error with
        | true => exact .done pending hist
        | false => exact ⟨pending, .done pending hist⟩
      · exact ⟨_, .write 0 (.done _ _)⟩
      · have hturns := ih (pending.advance (count + 1)) true
          (world', hist ++ [.wrote side (pending.remaining.take (count + 1))])
        suffices himp : ∀ out s', Outcome _ _ out s' → Outcome _ _ out s' from
          himp _ _ hturns
        intro out s' hrest
        cases out with
        | ok res => exact .write _ hrest
        | error error =>
          obtain ⟨pending', hwrs⟩ := hrest
          exact ⟨pending', .write _ hwrs⟩

end

end KeliNative.Relay
