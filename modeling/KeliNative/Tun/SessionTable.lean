import KeliNative.Tun.SessionTypes

/-!
# The TUN TCP session table (`keli-net-core/src/tun.rs`)

`TunTcpSessionTable` and its operations.
-/

namespace KeliNative.Tun

structure TunTcpSessionTable where
  sessions : KeyMap TunTcpSessionKey TunTcpSessionRecord
  serverClosedSessions : KeyMap TunTcpSessionKey TunTcpServerClosedSession
  postClosedSessions : KeyMap TunTcpSessionKey TunTcpPostCloseSession
  maxActiveSessions : ℕ

abbrev TableProgram (α : Type) := Program TunTcpSessionTable TunPacketError α

namespace TunTcpSessionTable

variable {α : Type}

def withMaxActiveSessions (maxActiveSessions : ℕ) : TunTcpSessionTable :=
  ⟨∅, ∅, ∅, max maxActiveSessions 1⟩

def len (table : TunTcpSessionTable) : ℕ := table.sessions.keys.length

def getFlow (flow : TunPacketFlow) : TableProgram (Option TunTcpSessionRecord) := fun table =>
  match TunTcpSessionKey.fromFlow flow with
  | .error error => (.error error, table)
  | .ok key => (.ok (table.sessions.lookup key), table)

/- The three `let Some(entry) = self.map.get_mut(&key) else { return Ok(None) }`
preambles: `body` runs on the entry, and what it leaves is the new entry. -/

def withSession (flow : TunPacketFlow)
    (body : Program TunTcpSessionRecord TunPacketError (Option α)) : TableProgram (Option α) :=
  fun table =>
    match TunTcpSessionKey.fromFlow flow with
    | .error error => (.error error, table)
    | .ok key =>
      match table.sessions.lookup key with
      | none => (.ok none, table)
      | some session =>
        let (result, session) := body session
        (result, { table with sessions := table.sessions.replace key session })

def withServerClosed (flow : TunPacketFlow)
    (body : Program TunTcpServerClosedSession TunPacketError (Option α)) : TableProgram (Option α) :=
  fun table =>
    match TunTcpSessionKey.fromFlow flow with
    | .error error => (.error error, table)
    | .ok key =>
      match table.serverClosedSessions.lookup key with
      | none => (.ok none, table)
      | some closed =>
        let (result, closed) := body closed
        (result, { table with
          serverClosedSessions := table.serverClosedSessions.replace key closed })

def withPostClosed (flow : TunPacketFlow)
    (body : Program TunTcpPostCloseSession TunPacketError (Option α)) : TableProgram (Option α) :=
  fun table =>
    match TunTcpSessionKey.fromFlow flow with
    | .error error => (.error error, table)
    | .ok key =>
      match table.postClosedSessions.lookup key with
      | none => (.ok none, table)
      | some postClose =>
        let (result, postClose) := body postClose
        (result, { table with
          postClosedSessions := table.postClosedSessions.replace key postClose })

/-- `let packet = build(..)?; Ok(Some(frame))`, with the entry as it is by then. -/
def answer {σ : Type} (packet : Except TunPacketError Bytes) (frame : Bytes → α) :
    Program σ TunPacketError (Option α) := fun entry =>
  match packet with
  | .error error => (.error error, entry)
  | .ok packet => (.ok (some (frame packet)), entry)

def startFromSyn (segment : TunTcpSegment) (serverInitialSequenceNumber : UInt32)
    (windowSize : UInt16) (now : Instant) : TableProgram TunTcpSynAckResponse := fun table =>
  if isInitialTcpSynSegment segment = false then
    (.error (.expectedTcpSynSegment segment.flags), table)
  else match TunTcpSessionKey.fromFlow segment.flow with
    | .error error => (.error error, table)
    | .ok key =>
      if table.sessions.lookup key = none ∧ table.maxActiveSessions ≤ table.sessions.keys.length then
        (.error (.tcpSessionLimitExceeded table.sessions.keys.length table.maxActiveSessions), table)
      else
        let session : TunTcpSessionRecord := {
          key := key
          flow := segment.flow
          clientInitialSequenceNumber := segment.sequenceNumber
          clientNextSequenceNumber := tcpSegmentNextSequenceNumber segment
          serverInitialSequenceNumber := serverInitialSequenceNumber
          serverNextSequenceNumber := serverInitialSequenceNumber + 1
          serverUnackedPayload := none
          windowSize := windowSize
          phase := .synReceived
          lastActivityAt := now }
        match buildTunTcpSynAckResponsePacket segment serverInitialSequenceNumber windowSize with
        | .error error => (.error error, table)
        | .ok packet =>
          (.ok ⟨session, packet⟩, { table with
            serverClosedSessions := table.serverClosedSessions.erase key
            postClosedSessions := table.postClosedSessions.erase key
            sessions := table.sessions.insert key session })

def acknowledgeRetransmittedSyn (segment : TunTcpSegment) (now : Instant) :
    TableProgram (Option TunTcpSynAckResponse) :=
  if isInitialTcpSynSegment segment = false then Program.pure none
  else withSession segment.flow fun session =>
    if session.phase = .synReceived ∧
        segment.sequenceNumber = session.clientInitialSequenceNumber then
      let session := { session with lastActivityAt := now }
      answer (buildTunTcpSynAckResponsePacket segment session.serverInitialSequenceNumber
        session.windowSize) (fun packet => ⟨session, packet⟩) session
    else (.ok none, session)

def applyAck (segment : TunTcpSegment) (now : Instant) :
    TableProgram (Option TunTcpSessionRecord) :=
  withSession segment.flow fun session =>
    if session.phase = .synReceived ∧ segment.flags.ack ∧ ¬ segment.flags.syn ∧
        ¬ segment.flags.rst ∧ segment.sequenceNumber = session.clientNextSequenceNumber ∧
        segment.acknowledgmentNumber = session.serverNextSequenceNumber then
      let session := { session with phase := .established, lastActivityAt := now }
      (.ok (some session), session)
    else (.ok none, session)

/-- What the four data operations ask of a session and a segment in common. -/
def acceptsClientData (segment : TunTcpSegment) (session : TunTcpSessionRecord) : Bool :=
  session.phase == .established && !segment.payload.isEmpty && segment.flags.ack &&
    !segment.flags.syn && !segment.flags.rst &&
    tcpSegmentAcknowledgesKnownServerSequence segment session

def buildSessionAck (session : TunTcpSessionRecord) : Except TunPacketError Bytes :=
  buildTunTcpAckResponsePacket session.flow session.serverNextSequenceNumber
    session.clientNextSequenceNumber session.windowSize

def acceptClientPayload (segment : TunTcpSegment) (now : Instant) :
    TableProgram (Option TunTcpClientPayloadFrame) :=
  withSession segment.flow fun session =>
    if acceptsClientData segment session ∧
        segment.sequenceNumber = session.clientNextSequenceNumber then
      let session := { clearServerUnackedPayloadIfLatestAcknowledged segment session with
        clientNextSequenceNumber := tcpSegmentNextSequenceNumber segment
        lastActivityAt := now }
      answer (buildSessionAck session) (fun ackPacket =>
        ⟨session, segment.sequenceNumber, session.clientNextSequenceNumber, segment.payload,
          ackPacket⟩) session
    else (.ok none, session)

/- The comparisons of `accept_overlapping_client_payload` and its two siblings are
plain `u32` comparisons, not serial arithmetic, and so is the subtraction. -/
def acceptOverlappingClientPayload (segment : TunTcpSegment) (now : Instant) :
    TableProgram (Option TunTcpClientPayloadFrame) :=
  withSession segment.flow fun session =>
    let segmentNext := tcpSegmentNextSequenceNumber segment
    if acceptsClientData segment session ∧ ¬ segment.flags.fin ∧
        segment.sequenceNumber < session.clientNextSequenceNumber ∧
        session.clientNextSequenceNumber < segmentNext then
      let payloadOffset := (session.clientNextSequenceNumber - segment.sequenceNumber).toNat
      -- `segment.payload.get(payload_offset..)`
      if payloadOffset ≤ segment.payload.length then
        let sequenceNumber := session.clientNextSequenceNumber
        let session := { clearServerUnackedPayloadIfLatestAcknowledged segment session with
          clientNextSequenceNumber := segmentNext
          lastActivityAt := now }
        answer (buildSessionAck session) (fun ackPacket =>
          ⟨session, sequenceNumber, session.clientNextSequenceNumber,
            segment.payload.drop payloadOffset, ackPacket⟩) session
      else (.ok none, session)
    else (.ok none, session)

def acknowledgeDuplicateClientPayload (segment : TunTcpSegment) (now : Instant) :
    TableProgram (Option TunTcpDuplicateClientPayloadAck) :=
  withSession segment.flow fun session =>
    if acceptsClientData segment session ∧ ¬ segment.flags.fin ∧
        segment.sequenceNumber < session.clientNextSequenceNumber ∧
        tcpSegmentNextSequenceNumber segment ≤ session.clientNextSequenceNumber then
      let session := { clearServerUnackedPayloadIfLatestAcknowledged segment session with
        lastActivityAt := now }
      answer (buildSessionAck session) (fun ackPacket =>
        ⟨session, segment.sequenceNumber, session.clientNextSequenceNumber, segment.payload,
          ackPacket⟩) session
    else (.ok none, session)

def acknowledgeOutOfOrderClientPayload (segment : TunTcpSegment) (now : Instant) :
    TableProgram (Option TunTcpOutOfOrderClientPayloadAck) :=
  withSession segment.flow fun session =>
    if acceptsClientData segment session ∧ ¬ segment.flags.fin ∧
        session.clientNextSequenceNumber < segment.sequenceNumber then
      let session := { clearServerUnackedPayloadIfLatestAcknowledged segment session with
        lastActivityAt := now }
      answer (buildSessionAck session) (fun ackPacket =>
        ⟨session, segment.sequenceNumber, session.clientNextSequenceNumber, segment.payload,
          ackPacket⟩) session
    else (.ok none, session)

def sendServerPayload (flow : TunPacketFlow) (payload : Bytes) (now : Instant) :
    TableProgram (Option TunTcpServerPayloadFrame) :=
  withSession flow fun session =>
    if tunTcpPhaseAcceptsServerResponse session.phase ∧ payload ≠ [] then
      let sequenceNumber := session.serverNextSequenceNumber
      let acknowledgmentNumber := session.clientNextSequenceNumber
      match buildTunTcpPayloadResponsePacket session.flow sequenceNumber acknowledgmentNumber
          session.windowSize payload with
      | .error error => (.error error, session)
      | .ok packet =>
        let session := { session with
          serverNextSequenceNumber :=
            session.serverNextSequenceNumber + UInt32.ofNat payload.length
          serverUnackedPayload := some ⟨sequenceNumber, acknowledgmentNumber, payload⟩
          lastActivityAt := now }
        (.ok (some ⟨session, sequenceNumber, acknowledgmentNumber, payload, packet⟩), session)
    else (.ok none, session)

/-- The retransmission both `retransmit_server_payload` operations make of `unacked`. -/
def resendUnacked (unacked : TunTcpServerUnackedPayload) (now : Instant) :
    Program TunTcpSessionRecord TunPacketError (Option TunTcpServerPayloadFrame) := fun session =>
  let acknowledgmentNumber := session.clientNextSequenceNumber
  match buildTunTcpPayloadResponsePacket session.flow unacked.sequenceNumber acknowledgmentNumber
      session.windowSize unacked.payload with
  | .error error => (.error error, session)
  | .ok packet =>
    let session := { session with lastActivityAt := now }
    (.ok (some ⟨session, unacked.sequenceNumber, acknowledgmentNumber, unacked.payload, packet⟩),
      session)

def retransmitServerPayload (segment : TunTcpSegment) (now : Instant) :
    TableProgram (Option TunTcpServerPayloadFrame) :=
  if isPureAck segment = false then Program.pure none
  else withSession segment.flow fun session =>
    match session.serverUnackedPayload with
    | none => (.ok none, session)
    | some unacked =>
      if tunTcpPhaseAcceptsServerResponse session.phase ∧
          segment.sequenceNumber = session.clientNextSequenceNumber ∧
          segment.acknowledgmentNumber = unacked.sequenceNumber then
        resendUnacked unacked now session
      else (.ok none, session)

def retransmitServerPayloadForDuplicateClientFin (segment : TunTcpSegment) (now : Instant) :
    TableProgram (Option TunTcpServerPayloadFrame) :=
  if isClientFin segment = false then Program.pure none
  else withSession segment.flow fun session =>
    match session.serverUnackedPayload with
    | none => (.ok none, session)
    | some unacked =>
      if session.phase = .clientFinReceived ∧
          tcpSegmentNextSequenceNumber segment = session.clientNextSequenceNumber ∧
          segment.acknowledgmentNumber = unacked.sequenceNumber then
        resendUnacked unacked now session
      else (.ok none, session)

/- `close_server_side` removes the session before it looks at its phase. -/
def closeServerSide (key : TunTcpSessionKey) (now : Instant) :
    TableProgram (Option TunTcpServerCloseFrame) := fun table =>
  match table.sessions.lookup key with
  | none => (.ok none, table)
  | some session =>
    let table := { table with sessions := table.sessions.erase key }
    if tunTcpPhaseAcceptsServerResponse session.phase then
      let sequenceNumber := session.serverNextSequenceNumber
      let acknowledgmentNumber := session.clientNextSequenceNumber
      match buildTunTcpFinAckResponsePacket session.flow sequenceNumber acknowledgmentNumber
          session.windowSize with
      | .error error => (.error error, table)
      | .ok packet =>
        let response : TunTcpServerCloseFrame :=
          ⟨session, sequenceNumber, acknowledgmentNumber, packet⟩
        (.ok (some response), { table with
          serverClosedSessions := table.serverClosedSessions.insert key ⟨response, now⟩ })
    else (.ok none, table)

def retransmitServerClose (segment : TunTcpSegment) (now : Instant) :
    TableProgram (Option TunTcpServerCloseFrame) :=
  if isPureAck segment = false then Program.pure none
  else withServerClosed segment.flow fun closed =>
    if segment.sequenceNumber = closed.response.acknowledgmentNumber ∧
        segment.acknowledgmentNumber = closed.response.sequenceNumber then
      (.ok (some closed.response), { closed with lastActivityAt := now })
    else (.ok none, closed)

def retransmitServerCloseForDuplicateClientFin (segment : TunTcpSegment) (now : Instant) :
    TableProgram (Option TunTcpServerCloseFrame) :=
  if isClientFin segment = false then Program.pure none
  else withServerClosed segment.flow fun closed =>
    if tcpSegmentNextSequenceNumber segment = closed.response.acknowledgmentNumber ∧
        segment.acknowledgmentNumber = closed.response.sequenceNumber then
      (.ok (some closed.response), { closed with lastActivityAt := now })
    else (.ok none, closed)

def acknowledgesServerFin (segment : TunTcpSegment) (response : TunTcpServerCloseFrame) : Bool :=
  segment.sequenceNumber == response.acknowledgmentNumber &&
    segment.acknowledgmentNumber == serverCloseNextSequenceNumber response

def acknowledgeServerClose (segment : TunTcpSegment) (now : Instant) :
    TableProgram (Option TunTcpSessionRecord) := fun table =>
  if isPureAck segment = false then (.ok none, table)
  else match TunTcpSessionKey.fromFlow segment.flow with
    | .error error => (.error error, table)
    | .ok key =>
      match table.serverClosedSessions.lookup key with
      | none => (.ok none, table)
      | some closed =>
        if acknowledgesServerFin segment closed.response then
          let session := closed.response.session
          (.ok (some session), { table with
            serverClosedSessions := table.serverClosedSessions.erase key
            postClosedSessions := table.postClosedSessions.insert key {
              session := session
              serverNextSequenceNumber := serverCloseNextSequenceNumber closed.response
              clientNextSequenceNumber := closed.response.acknowledgmentNumber
              clientFinSequenceNumber := none
              clientFinAckPacket := none
              lastActivityAt := now } })
        else (.ok none, table)

def acknowledgeServerCloseWithClientFin (segment : TunTcpSegment) (now : Instant) :
    TableProgram (Option TunTcpCloseFrame) := fun table =>
  if isClientFin segment = false ∨ segment.payload ≠ [] then (.ok none, table)
  else match TunTcpSessionKey.fromFlow segment.flow with
    | .error error => (.error error, table)
    | .ok key =>
      match table.serverClosedSessions.lookup key with
      | none => (.ok none, table)
      | some closed =>
        if acknowledgesServerFin segment closed.response then
          let table := { table with serverClosedSessions := table.serverClosedSessions.erase key }
          let session := closed.response.session
          let sequenceNumber := serverCloseNextSequenceNumber closed.response
          let acknowledgmentNumber := tcpSegmentNextSequenceNumber segment
          match buildTunTcpAckResponsePacket session.flow sequenceNumber acknowledgmentNumber
              session.windowSize with
          | .error error => (.error error, table)
          | .ok packet =>
            (.ok (some ⟨session, sequenceNumber, acknowledgmentNumber, packet⟩), { table with
              postClosedSessions := table.postClosedSessions.insert key {
                session := session
                serverNextSequenceNumber := sequenceNumber
                clientNextSequenceNumber := acknowledgmentNumber
                clientFinSequenceNumber := some segment.sequenceNumber
                clientFinAckPacket := some packet
                lastActivityAt := now } })
        else (.ok none, table)

def matchesClientSequence (segment : TunTcpSegment) (postClose : TunTcpPostCloseSession) : Bool :=
  segment.sequenceNumber == postClose.clientNextSequenceNumber ||
    postClose.clientFinSequenceNumber == some segment.sequenceNumber

def acknowledgePostCloseAck (segment : TunTcpSegment) (now : Instant) :
    TableProgram (Option TunTcpSessionRecord) :=
  if isPureAck segment = false then Program.pure none
  else withPostClosed segment.flow fun postClose =>
    if matchesClientSequence segment postClose ∧
        segment.acknowledgmentNumber = postClose.serverNextSequenceNumber then
      (.ok (some postClose.session), { postClose with lastActivityAt := now })
    else (.ok none, postClose)

def acknowledgePostCloseClientFin (segment : TunTcpSegment) (now : Instant) :
    TableProgram (Option TunTcpCloseFrame) :=
  if isClientFin segment = false then Program.pure none
  else withPostClosed segment.flow fun postClose =>
    if segment.acknowledgmentNumber ≠ postClose.serverNextSequenceNumber then (.ok none, postClose)
    else match postClose.clientFinSequenceNumber with
      | some clientFinSequenceNumber =>
        if segment.sequenceNumber = clientFinSequenceNumber ∧
            tcpSegmentNextSequenceNumber segment = postClose.clientNextSequenceNumber then
          match postClose.clientFinAckPacket with
          | none => (.ok none, postClose)
          | some packet =>
            (.ok (some ⟨postClose.session, postClose.serverNextSequenceNumber,
              postClose.clientNextSequenceNumber, packet⟩), { postClose with lastActivityAt := now })
        else (.ok none, postClose)
      | none =>
        if segment.sequenceNumber = postClose.clientNextSequenceNumber then
          let sequenceNumber := postClose.serverNextSequenceNumber
          let acknowledgmentNumber := tcpSegmentNextSequenceNumber segment
          match buildTunTcpAckResponsePacket postClose.session.flow sequenceNumber
              acknowledgmentNumber postClose.session.windowSize with
          | .error error => (.error error, postClose)
          | .ok packet =>
            (.ok (some ⟨postClose.session, sequenceNumber, acknowledgmentNumber, packet⟩),
              { postClose with
                clientNextSequenceNumber := acknowledgmentNumber
                clientFinSequenceNumber := some segment.sequenceNumber
                clientFinAckPacket := some packet
                lastActivityAt := now })
        else (.ok none, postClose)

def isBareRst (segment : TunTcpSegment) : Bool :=
  segment.flags.rst && !segment.flags.syn && !segment.flags.fin

def removeServerCloseOnRst (segment : TunTcpSegment) : TableProgram (Option TunTcpSessionRecord) :=
  fun table =>
    if isBareRst segment = false then (.ok none, table)
    else match TunTcpSessionKey.fromFlow segment.flow with
      | .error error => (.error error, table)
      | .ok key =>
        match table.serverClosedSessions.lookup key with
        | none => (.ok none, table)
        | some closed =>
          if segment.sequenceNumber = closed.response.acknowledgmentNumber ∧
              (segment.flags.ack →
                segment.acknowledgmentNumber = closed.response.sequenceNumber ∨
                segment.acknowledgmentNumber = serverCloseNextSequenceNumber closed.response) then
            (.ok (some closed.response.session), { table with
              serverClosedSessions := table.serverClosedSessions.erase key })
          else (.ok none, table)

def removePostCloseOnRst (segment : TunTcpSegment) : TableProgram (Option TunTcpSessionRecord) :=
  fun table =>
    if isBareRst segment = false then (.ok none, table)
    else match TunTcpSessionKey.fromFlow segment.flow with
      | .error error => (.error error, table)
      | .ok key =>
        match table.postClosedSessions.lookup key with
        | none => (.ok none, table)
        | some postClose =>
          if matchesClientSequence segment postClose ∧
              (segment.flags.ack →
                segment.acknowledgmentNumber = postClose.serverNextSequenceNumber) then
            (.ok (some postClose.session), { table with
              postClosedSessions := table.postClosedSessions.erase key })
          else (.ok none, table)

def acceptsClientFin (segment : TunTcpSegment) (session : TunTcpSessionRecord) : Bool :=
  session.phase == .established &&
    segment.sequenceNumber == session.clientNextSequenceNumber &&
    tcpSegmentAcknowledgesKnownServerSequence segment session

def acceptFin (segment : TunTcpSegment) (now : Instant)
    (frame : TunTcpSessionRecord → UInt32 → UInt32 → Bytes → α) :
    Program TunTcpSessionRecord TunPacketError (Option α) := fun session =>
  let session := clearServerUnackedPayloadIfLatestAcknowledged segment session
  let sequenceNumber := session.serverNextSequenceNumber
  let acknowledgmentNumber := tcpSegmentNextSequenceNumber segment
  match buildTunTcpAckResponsePacket session.flow sequenceNumber acknowledgmentNumber
      session.windowSize with
  | .error error => (.error error, session)
  | .ok packet =>
    let session := { session with
      clientNextSequenceNumber := acknowledgmentNumber
      phase := .clientFinReceived
      lastActivityAt := now }
    (.ok (some (frame session sequenceNumber acknowledgmentNumber packet)), session)

def acceptClientFinWithPayload (segment : TunTcpSegment) (now : Instant) :
    TableProgram (Option (TunTcpClientPayloadFrame × TunTcpCloseFrame)) :=
  if isClientFin segment = false ∨ segment.payload = [] then Program.pure none
  else withSession segment.flow fun session =>
    if acceptsClientFin segment session then
      acceptFin segment now (fun session sequenceNumber acknowledgmentNumber packet =>
        (⟨session, segment.sequenceNumber, acknowledgmentNumber, segment.payload, packet⟩,
          ⟨session, sequenceNumber, acknowledgmentNumber, packet⟩)) session
    else (.ok none, session)

def acknowledgeClientFin (segment : TunTcpSegment) (now : Instant) :
    TableProgram (Option TunTcpCloseFrame) :=
  if isClientFin segment = false ∨ segment.payload ≠ [] then Program.pure none
  else withSession segment.flow fun session =>
    if acceptsClientFin segment session then
      acceptFin segment now (fun session sequenceNumber acknowledgmentNumber packet =>
        ⟨session, sequenceNumber, acknowledgmentNumber, packet⟩) session
    else (.ok none, session)

/- The duplicate is answered before its acknowledgment clears the unacked payload. -/
def acknowledgeDuplicateClientFin (segment : TunTcpSegment) (now : Instant) :
    TableProgram (Option TunTcpCloseFrame) :=
  if isClientFin segment = false then Program.pure none
  else withSession segment.flow fun session =>
    if session.phase = .clientFinReceived ∧
        tcpSegmentNextSequenceNumber segment = session.clientNextSequenceNumber ∧
        tcpSegmentAcknowledgesKnownServerSequence segment session then
      match buildSessionAck session with
      | .error error => (.error error, session)
      | .ok packet =>
        let session := { clearServerUnackedPayloadIfLatestAcknowledged segment session with
          lastActivityAt := now }
        (.ok (some ⟨session, session.serverNextSequenceNumber, session.clientNextSequenceNumber,
          packet⟩), session)
    else (.ok none, session)

def serverPayloadPollSession (segment : TunTcpSegment) (now : Instant) :
    TableProgram (Option TunTcpSessionRecord) :=
  if isPureAck segment = false then Program.pure none
  else withSession segment.flow fun session =>
    if tunTcpPhaseAcceptsServerResponse session.phase ∧
        segment.sequenceNumber = session.clientNextSequenceNumber ∧
        segment.acknowledgmentNumber = session.serverNextSequenceNumber then
      let session := { clearServerUnackedPayloadIfLatestAcknowledged segment session with
        lastActivityAt := now }
      (.ok (some session), session)
    else (.ok none, session)

def acknowledgeClientAck (segment : TunTcpSegment) (now : Instant) :
    TableProgram (Option TunTcpSessionRecord) :=
  if isPureAck segment = false then Program.pure none
  else withSession segment.flow fun session =>
    if tunTcpPhaseAcceptsServerResponse session.phase ∧
        segment.sequenceNumber = session.clientNextSequenceNumber ∧
        tcpSegmentAcknowledgesKnownServerSequence segment session then
      let session := { clearServerUnackedPayloadIfLatestAcknowledged segment session with
        lastActivityAt := now }
      (.ok (some session), session)
    else (.ok none, session)

def idleFor (now : Instant) (idleTimeout : Duration) (last : Instant) : Bool :=
  idleTimeout ≤ now - last

/-- The idle sessions in the order of the list, where the source has the arbitrary order of its
`HashMap`. The proofs use which sessions these are, and that each stands there once. -/
def pruneIdle (now : Instant) (idleTimeout : Duration) (table : TunTcpSessionTable) :
    List TunTcpSessionRecord × TunTcpSessionTable :=
  let (prunedSessions, sessions) := KeyMap.takeKeys
    (table.sessions.keysWhere fun session => idleFor now idleTimeout session.lastActivityAt)
    table.sessions
  let (_, serverClosedSessions) := KeyMap.takeKeys
    (table.serverClosedSessions.keysWhere fun closed => idleFor now idleTimeout closed.lastActivityAt)
    table.serverClosedSessions
  let (_, postClosedSessions) := KeyMap.takeKeys
    (table.postClosedSessions.keysWhere fun postClose =>
      idleFor now idleTimeout postClose.lastActivityAt)
    table.postClosedSessions
  (prunedSessions, { table with
    sessions := sessions
    serverClosedSessions := serverClosedSessions
    postClosedSessions := postClosedSessions })

def removeOnClose (segment : TunTcpSegment) (now : Instant) :
    TableProgram (Option (TunTcpSessionRecord × Option TunTcpCloseFrame)) := fun table =>
  if segment.flags.rst = false ∧ segment.flags.fin = false then (.ok none, table)
  else match TunTcpSessionKey.fromFlow segment.flow with
    | .error error => (.error error, table)
    | .ok key =>
      match table.sessions.lookup key with
      | none => (.ok none, table)
      | some session =>
        if tcpCloseSegmentMatchesSession segment session = false then (.ok none, table)
        else
          let table := { table with sessions := table.sessions.erase key }
          if segment.flags.fin ∧ ¬ segment.flags.rst then
            let sequenceNumber := session.serverNextSequenceNumber
            let acknowledgmentNumber := tcpSegmentNextSequenceNumber segment
            match buildTunTcpAckResponsePacket session.flow sequenceNumber acknowledgmentNumber
                session.windowSize with
            | .error error => (.error error, table)
            | .ok packet =>
              (.ok (some (session, some ⟨session, sequenceNumber, acknowledgmentNumber, packet⟩)),
                { table with
                  postClosedSessions := table.postClosedSessions.insert key {
                    session := session
                    serverNextSequenceNumber := sequenceNumber
                    clientNextSequenceNumber := acknowledgmentNumber
                    clientFinSequenceNumber := some segment.sequenceNumber
                    clientFinAckPacket := some packet
                    lastActivityAt := now } })
          else (.ok (some (session, none)), table)

end TunTcpSessionTable

end KeliNative.Tun
