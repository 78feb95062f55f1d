import KeliNative.Tun.SessionTable

/-!
# TUN TCP session steps (`keli-net-core/src/tun.rs`)

The relay is the seven trait methods, each reading and writing the relay's own state.
-/

namespace KeliNative.Tun
open TunTcpSessionTable

structure TunTcpSessionRelay (ρ : Type) where
  establishSession : TunTcpSessionRecord → ρ → Except String Unit × ρ
  establishSessionWithPlan : TunTcpSessionRecord → TunPacketRelayPlan → ρ → Except String Unit × ρ
  writeClientPayload : TunTcpClientPayloadFrame → ρ → Except String Unit × ρ
  shutdownClientWrite : TunTcpSessionRecord → ρ → Except String Unit × ρ
  readServerEvent : TunTcpSessionRecord → ρ → Except String TunTcpServerRead × ρ
  pollServerEvent : TunTcpSessionRecord → ρ → Except String TunTcpServerRead × ρ
  closeSession : TunTcpSessionRecord → ρ → Except String Unit × ρ

/-- The call both `establish_session` methods stand for, with the plan if there is one. -/
def TunTcpSessionRelay.establish {ρ : Type} (relay : TunTcpSessionRelay ρ)
    (relayPlan : Option TunPacketRelayPlan) (session : TunTcpSessionRecord) :
    ρ → Except String Unit × ρ :=
  match relayPlan with
  | some plan => relay.establishSessionWithPlan session plan
  | none => relay.establishSession session

abbrev SessionProgram (ρ α : Type) := Program (TunTcpSessionTable × ρ) TunTcpSessionError α

section

variable {ρ α : Type}

def onTable (operation : TableProgram α) : SessionProgram ρ α := fun (table, relayState) =>
  let (result, table) := operation table
  (result.mapError .packet, (table, relayState))

def callRelay (call : ρ → Except String α × ρ) : SessionProgram ρ α := fun (table, relayState) =>
  let (result, relayState) := call relayState
  (result.mapError .relay, (table, relayState))

variable (relay : TunTcpSessionRelay ρ) (segment : TunTcpSegment)
  (relayPlan : Option TunPacketRelayPlan) (now : Instant)

def closeTunTcpSessionFromServer (session : TunTcpSessionRecord) :
    SessionProgram ρ (Option TunTcpServerCloseFrame) :=
  Program.ifLet (onTable (closeServerSide session.key now))
    (fun response => do
      callRelay (relay.closeSession response.session)
      return some response)
    (return none)

def readTunTcpServerEvent (session : TunTcpSessionRecord) :
    SessionProgram ρ (Option TunTcpServerPayloadFrame × Option TunTcpServerCloseFrame) := do
  match ← callRelay (relay.readServerEvent session) with
  | .payload payload => return (← onTable (sendServerPayload session.flow payload now), none)
  | .closed => return (none, ← closeTunTcpSessionFromServer relay now session)
  | .noPayload => return (none, none)

def readTunTcpServerEventAfterClientPayload (frame : TunTcpClientPayloadFrame) :
    SessionProgram ρ (Option TunTcpServerPayloadFrame × Option TunTcpServerCloseFrame) :=
  readTunTcpServerEvent relay now frame.session

def readTunTcpServerEventAfterClientFin (session : TunTcpSessionRecord) :
    SessionProgram ρ (Option TunTcpServerPayloadFrame × Option TunTcpServerCloseFrame) :=
  readTunTcpServerEvent relay now session

def buildTunTcpSessionResetFrame : Except TunPacketError TunTcpSessionResetFrame :=
  (buildTunTcpResetResponsePacket segment).map fun packet =>
    ⟨tcpResetSequenceNumber segment, tcpResetAcknowledgmentNumber segment, packet⟩

def shouldResetUnknownTunTcpSessionSegment : Bool :=
  !segment.flags.rst &&
    (segment.flags.syn || segment.flags.fin || segment.flags.ack || !segment.payload.isEmpty)

/-- `let response = build_tun_tcp_session_reset_frame(segment)?; return Ok(Reset { response })`. -/
def resetStep : SessionProgram ρ TunTcpSessionStep := fun state =>
  match buildTunTcpSessionResetFrame segment with
  | .error error => (.error (.packet error), state)
  | .ok response => (.ok (.reset response), state)

/-! ### `FIN` and `RST` segments

Each block is one `if` of the source; `next` is what follows it. -/

def duplicateFinStep (response : TunTcpCloseFrame) : SessionProgram ρ TunTcpSessionStep := do
  let (serverResponse, serverClose) ←
    readTunTcpServerEventAfterClientFin relay now response.session
  if serverResponse.isSome ∨ serverClose.isSome then
    return .clientFinDuplicateAck response serverResponse serverClose
  else return .serverCloseClientFinAck response

def clientFinWithPayloadStep (frame : TunTcpClientPayloadFrame) (response : TunTcpCloseFrame) :
    SessionProgram ρ TunTcpSessionStep := do
  callRelay (relay.writeClientPayload frame)
  callRelay (relay.shutdownClientWrite response.session)
  let (serverResponse, serverClose) ← readTunTcpServerEventAfterClientPayload relay now frame
  return .clientPayloadClosed frame response serverResponse serverClose

def clientFinStep (response : TunTcpCloseFrame) : SessionProgram ρ TunTcpSessionStep := do
  callRelay (relay.shutdownClientWrite response.session)
  let (serverResponse, serverClose) ←
    readTunTcpServerEventAfterClientFin relay now response.session
  return .clientFinAck response serverResponse serverClose

/- The source has one block for a `FIN` with payload and one for a bare `FIN`; they
differ in their last operation only. -/
def clientFinBlock (next : SessionProgram ρ TunTcpSessionStep) : SessionProgram ρ TunTcpSessionStep :=
  if segment.flags.fin ∧ ¬ segment.flags.rst then
    Program.ifLet (onTable (retransmitServerPayloadForDuplicateClientFin segment now))
      (fun response => return .serverPayloadRetransmission response) <|
    Program.ifLet (onTable (acknowledgeDuplicateClientFin segment now))
      (duplicateFinStep relay now) <|
    if segment.payload ≠ [] then
      Program.ifLet (onTable (acceptClientFinWithPayload segment now))
        (fun (frame, response) => clientFinWithPayloadStep relay now frame response) next
    else
      Program.ifLet (onTable (acknowledgeClientFin segment now)) (clientFinStep relay now) next
  else next

def removeBlock (next : SessionProgram ρ TunTcpSessionStep) : SessionProgram ρ TunTcpSessionStep :=
  Program.ifLet (onTable (removeOnClose segment now))
    (fun (session, response) => do
      callRelay (relay.closeSession session)
      return .closed session response) next

def closeMarkerFinBlock (next : SessionProgram ρ TunTcpSessionStep) :
    SessionProgram ρ TunTcpSessionStep :=
  if segment.flags.fin ∧ ¬ segment.flags.rst then
    Program.ifLet (onTable (acknowledgeServerCloseWithClientFin segment now))
      (fun response => return .serverCloseClientFinAck response) <|
    Program.ifLet (onTable (retransmitServerCloseForDuplicateClientFin segment now))
      (fun response => return .serverCloseRetransmission response) <|
    Program.ifLet (onTable (acknowledgePostCloseClientFin segment now))
      (fun response => return .serverCloseClientFinAck response) next
  else next

def unknownFinBlock (next : SessionProgram ρ TunTcpSessionStep) : SessionProgram ρ TunTcpSessionStep :=
  if segment.flags.fin ∧ ¬ segment.flags.rst then
    Program.ifLet (onTable (getFlow segment.flow)) (fun _ => next) (resetStep segment)
  else next

def closeMarkerRstBlock (next : SessionProgram ρ TunTcpSessionStep) :
    SessionProgram ρ TunTcpSessionStep :=
  if segment.flags.rst then
    Program.ifLet (onTable (removeServerCloseOnRst segment))
      (fun session => return .closeMarkerReset session .serverClose) <|
    Program.ifLet (onTable (removePostCloseOnRst segment))
      (fun session => return .closeMarkerReset session .postClose) next
  else next

def processClosingSegment : SessionProgram ρ TunTcpSessionStep :=
  clientFinBlock relay segment now <|
  removeBlock relay segment now <|
  closeMarkerFinBlock segment now <|
  unknownFinBlock segment <|
  closeMarkerRstBlock segment <|
  return .noop

def processInitialSyn (serverInitialSequenceNumber : UInt32) (windowSize : UInt16) :
    SessionProgram ρ TunTcpSessionStep :=
  let start : SessionProgram ρ TunTcpSessionStep := do
    let response ← onTable (startFromSyn segment serverInitialSequenceNumber windowSize now)
    return .synAck response
  Program.ifLet (onTable (acknowledgeRetransmittedSyn segment now))
    (fun response => return .synAck response) <|
  Program.ifLet (onTable (getFlow segment.flow))
    (fun session => if tunTcpPhaseAcceptsServerResponse session.phase then return .noop else start)
    start

def establishBlock : SessionProgram ρ (Option TunTcpSessionRecord) :=
  if segment.flags.ack ∧ ¬ segment.flags.syn then
    Program.ifLet (onTable (applyAck segment now))
      (fun session => do
        callRelay (relay.establish relayPlan session)
        return some session)
      (return none)
  else return none

def clientPayloadStep (frame : TunTcpClientPayloadFrame)
    (step : Option TunTcpServerPayloadFrame → Option TunTcpServerCloseFrame → TunTcpSessionStep) :
    SessionProgram ρ TunTcpSessionStep := do
  callRelay (relay.writeClientPayload frame)
  let (serverResponse, serverClose) ← readTunTcpServerEventAfterClientPayload relay now frame
  return step serverResponse serverClose

def clientPayloadBlock (next : SessionProgram ρ TunTcpSessionStep) :
    SessionProgram ρ TunTcpSessionStep :=
  Program.ifLet (onTable (acceptClientPayload segment now))
    (fun frame => clientPayloadStep relay now frame (.clientPayload frame)) <|
  Program.ifLet (onTable (acceptOverlappingClientPayload segment now))
    (fun frame => clientPayloadStep relay now frame (.overlappingClientPayload frame)) <|
  Program.ifLet (onTable (acknowledgeDuplicateClientPayload segment now))
    (fun ack => return .duplicateClientPayload ack) <|
  Program.ifLet (onTable (acknowledgeOutOfOrderClientPayload segment now))
    (fun ack => return .outOfOrderClientPayload ack) next

def acknowledgmentBlock (next : SessionProgram ρ TunTcpSessionStep) :
    SessionProgram ρ TunTcpSessionStep :=
  Program.ifLet (onTable (acknowledgeClientAck segment now))
    (fun session => return .clientAck session) <|
  Program.ifLet (onTable (retransmitServerClose segment now))
    (fun response => return .serverCloseRetransmission response) <|
  Program.ifLet (onTable (acknowledgeServerClose segment now))
    (fun session => return .serverCloseAcknowledged session) <|
  Program.ifLet (onTable (acknowledgePostCloseAck segment now))
    (fun session => return .serverCloseAcknowledged session) next

/- A poll whose payload is empty, or whose session is gone, falls through to the
acknowledgment block. -/
def pollStep (next : SessionProgram ρ TunTcpSessionStep) (session : TunTcpSessionRecord) :
    SessionProgram ρ TunTcpSessionStep := do
  match ← callRelay (relay.pollServerEvent session) with
  | .payload payload =>
    Program.ifLet (onTable (sendServerPayload session.flow payload now))
      (fun response => return .serverPayload response) next
  | .closed =>
    Program.ifLet (closeTunTcpSessionFromServer relay now session)
      (fun response => return .serverClosed response) next
  | .noPayload => return .clientAck session

def serverPayloadBlock (next : SessionProgram ρ TunTcpSessionStep) :
    SessionProgram ρ TunTcpSessionStep :=
  Program.ifLet (onTable (retransmitServerPayload segment now))
    (fun response => return .serverPayloadRetransmission response) <|
  Program.ifLet (onTable (serverPayloadPollSession segment now))
    (pollStep relay now (acknowledgmentBlock segment now next))
    (acknowledgmentBlock segment now next)

def resetUnknownBlock : SessionProgram ρ TunTcpSessionStep :=
  if shouldResetUnknownTunTcpSessionSegment segment then
    Program.ifLet (onTable (getFlow segment.flow)) (fun _ => return .noop) (resetStep segment)
  else return .noop

def processOpenSegment : SessionProgram ρ TunTcpSessionStep := do
  let established ← establishBlock relay segment relayPlan now
  clientPayloadBlock relay segment now <|
    match established with
    | none => serverPayloadBlock relay segment now (resetUnknownBlock segment)
    | some session => return .established session

def processTunTcpSessionSegmentWithRelayPlan (serverInitialSequenceNumber : UInt32)
    (windowSize : UInt16) : SessionProgram ρ TunTcpSessionStep :=
  if segment.flags.rst ∨ segment.flags.fin then processClosingSegment relay segment now
  else if isInitialTcpSynSegment segment then
    processInitialSyn segment now serverInitialSequenceNumber windowSize
  else processOpenSegment relay segment relayPlan now

structure TunTcpSessionPruneReport where
  prunedSessions : ℕ
  prunedServerClosedSessions : ℕ
  prunedPostClosedSessions : ℕ
  closeErrors : ℕ
  lastCloseError : Option TunTcpSessionError
  deriving DecidableEq

def closePrunedSessions : List TunTcpSessionRecord → TunTcpSessionPruneReport → ρ →
    TunTcpSessionPruneReport × ρ
  | [], report, relayState => (report, relayState)
  | session :: rest, report, relayState =>
    match relay.closeSession session relayState with
    | (.ok _, relayState) => closePrunedSessions rest report relayState
    | (.error error, relayState) =>
      closePrunedSessions rest { report with
        closeErrors := report.closeErrors + 1
        lastCloseError := some (.relay error) } relayState

def pruneIdleTunTcpSessions (idleTimeout : Duration) :
    TunTcpSessionTable × ρ → TunTcpSessionPruneReport × (TunTcpSessionTable × ρ) :=
  fun (table, relayState) =>
    let (prunedSessions, pruned) := pruneIdle now idleTimeout table
    let report : TunTcpSessionPruneReport := {
      prunedSessions := prunedSessions.length
      prunedServerClosedSessions :=
        table.serverClosedSessions.keys.length - pruned.serverClosedSessions.keys.length
      prunedPostClosedSessions :=
        table.postClosedSessions.keys.length - pruned.postClosedSessions.keys.length
      closeErrors := 0
      lastCloseError := none }
    let (report, relayState) := closePrunedSessions relay prunedSessions report relayState
    (report, (pruned, relayState))

end

end KeliNative.Tun
