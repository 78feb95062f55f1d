import KeliNative.Proxy.Script

/-!
# Bad datagrams of an association

What `relay_socks5_udp_datagram` does up to a reply never fails.
-/

namespace KeliNative.Proxy
open Route Outbound Program

section

variable {ω κ : Type} (env : ProxyEnvironment ω κ) (runtime : MixedProxyRuntime)

inductive Reply where
  | arrived (received : Received) (report : ConnectionReport)
  | made (source : SocketAddr) (payload : Bytes) (report : ConnectionReport)

def Reply.source : Reply → SocketAddr
  | .arrived received _ => received.source
  | .made source _ _ => source

def Reply.payload : Reply → Bytes
  | .arrived received _ => received.payload
  | .made _ payload _ => payload

def sendReply (relay : κ) (clientUdpAddr : SocketAddr) : Reply → Net ω IoError Unit
  | .arrived received report => do
    replyToClient env relay clientUdpAddr received
    emitConnectionReport env report
  | .made source payload report => do
    sendSocks5UdpResponse env relay clientUdpAddr source payload
    emitConnectionReport env report

def directAnswer (outbound : κ) (target : OutboundTarget) (payload : Bytes)
    (clientUdpAddr : SocketAddr) (report : ConnectionReport) : Net ω IoError (Option Reply) := do
  match ← attempt (resolveUdpSocketAddr env target) with
  | .error error =>
    reportFailure env report error
    return none
  | .ok remoteAddr =>
    let started ← env.network.instantNow
    match ← attempt (perform (.forward clientUdpAddr remoteAddr)
        (env.network.sendTo outbound payload remoteAddr)) with
    | .error error =>
      reportFailure env report error
      return none
    | .ok _ =>
      let report := { report with uploadBytes := payload.length }
      match ← attempt (receiveArrival env outbound) with
      | .error error =>
        reportFailure env report error
        return none
      | .ok received =>
        let finished ← env.network.instantNow
        return some (.arrived received { report with
          firstByteMs := some (finished - started)
          downloadBytes := received.payload.length })

def outboundAnswer (tag : String) (target : OutboundTarget) (payload : Bytes)
    (responseTimeout : Duration) (report : ConnectionReport) : Net ω IoError (Option Reply) := do
  let report := { report with routeAction := .outbound tag }
  match ← attempt (timed env
    (runtime.outbounds.relayUdpDatagram env.toEnvironment tag target payload responseTimeout)) with
  | .error error =>
    reportFailure env report error
    return none
  | .ok (response, firstByte) =>
    return some (.made response.source response.payload { report with
      uploadBytes := payload.length
      firstByteMs := some firstByte
      downloadBytes := response.payload.length })

def hijackedAnswer (target : OutboundTarget) (payload : Bytes) (report : ConnectionReport) :
    Net ω IoError (Option Reply) := do
  let report := { report with routeAction := .hijackDns }
  match ← attempt (timed env (withRuntimeEngine runtime (buildHijackedDnsResponse env payload))) with
  | .error error =>
    emitConnectionReport env (report.recordErrorDetail (.fromIo error) error.message)
    return none
  | .ok (response, firstByte) =>
    return some (.made (socks5UdpResponseSourceForTarget env target) response { report with
      uploadBytes := payload.length
      firstByteMs := some firstByte
      downloadBytes := response.length })

def answerDatagram (outbound : κ) (datagram : Socks5UdpDatagram) (clientUdpAddr : SocketAddr)
    (responseTimeout : Duration) : Net ω IoError (Option Reply) :=
  let target := outboundTargetFromSocks5Udp env.ipText datagram.address datagram.port
  let report := ConnectionReport.new "socks5-udp" target .direct
  match routeAction env runtime target with
  | .direct => directAnswer env outbound target datagram.payload clientUdpAddr report
  | .block => do
    emitConnectionReport env ({ report with routeAction := .block }.recordError .routeBlocked)
    return none
  | .outbound tag => outboundAnswer env runtime tag target datagram.payload responseTimeout report
  | .hijackDns => hijackedAnswer env runtime target datagram.payload report

def sendReply? (relay : κ) (clientUdpAddr : SocketAddr) : Option Reply → Net ω IoError Unit
  | none => .pure ()
  | some reply => sendReply env relay clientUdpAddr reply

variable {σ ε α β : Type} {s : Logged ω NetEvent} (report : ConnectionReport)
  {s' : Logged ω NetEvent} {program : Program σ ε α} {next : α → Program σ ε β}

theorem bind_eq_bind_bind {γ : Type} {next : α → Program σ ε γ} {next' : α → Program σ ε β}
    {last : β → Program σ ε γ} (h : ∀ a, next a = (next' a).bind last) :
    program.bind next = (program.bind next').bind last := by
  funext s
  unfold Program.bind
  rcases program s with ⟨error | a, s'⟩
  · rfl
  · exact congrFun (h a) s'

theorem bind_run {s s' : σ} {a : α} (h : program s = (.ok a, s')) : program.bind next s = next a s' := by
  unfold Program.bind
  rw [h]

theorem bind_run_error {s s' : σ} {error : ε} (h : program s = (.error error, s')) :
    program.bind next s = (.error error, s') := by
  unfold Program.bind
  rw [h]

theorem eq_bind_none (relay : κ) (addr : SocketAddr) (program : Net ω IoError Unit) :
    program = Program.bind (Program.bind program fun _ => Program.pure none)
      (sendReply? env relay addr) := by
  funext s
  unfold Program.bind
  rcases program s with ⟨error | a, s'⟩
  · rfl
  · rfl

theorem relayDirectDatagram_eq (relay outbound : κ) (target : OutboundTarget) (data : Bytes)
    (addr : SocketAddr) (report : ConnectionReport) :
    relayDirectDatagram env relay outbound target data addr report =
      (directAnswer env outbound target data addr report).bind
        (sendReply? env relay addr) := by
  unfold relayDirectDatagram directAnswer
  refine bind_eq_bind_bind fun resolved => ?_
  cases resolved with
  | error error => exact eq_bind_none env relay addr _
  | ok remoteAddr =>
    refine bind_eq_bind_bind fun started => ?_
    refine bind_eq_bind_bind fun sent => ?_
    cases sent with
    | error error => exact eq_bind_none env relay addr _
    | ok count =>
      refine bind_eq_bind_bind fun arrival => ?_
      cases arrival with
      | error error => exact eq_bind_none env relay addr _
      | ok recv =>
        refine bind_eq_bind_bind fun finished => ?_
        rfl

theorem relayOutboundDatagram_eq (relay : κ) (tag : String) (target : OutboundTarget)
    (data : Bytes) (addr : SocketAddr) (wait : Duration) (report : ConnectionReport) :
    relayOutboundDatagram env runtime relay tag target data addr wait
        report =
      (outboundAnswer env runtime tag target data wait report).bind
        (sendReply? env relay addr) := by
  unfold relayOutboundDatagram outboundAnswer
  refine bind_eq_bind_bind fun relayed => ?_
  cases relayed with
  | error error => exact eq_bind_none env relay addr _
  | ok resp => rfl

theorem relayHijackedDatagram_eq (relay : κ) (target : OutboundTarget) (data : Bytes)
    (addr : SocketAddr) (report : ConnectionReport) :
    relayHijackedDatagram env runtime relay target data addr report =
      (hijackedAnswer env runtime target data report).bind
        (sendReply? env relay addr) := by
  unfold relayHijackedDatagram hijackedAnswer
  refine bind_eq_bind_bind fun built => ?_
  cases built with
  | error error => exact eq_bind_none env relay addr _
  | ok resp => rfl

theorem relaySocks5UdpDatagram_eq (relay outbound : κ) (req : Bytes)
    (addr : SocketAddr) (wait : Duration) :
    relaySocks5UdpDatagram env runtime relay outbound req addr wait =
      (ofExcept ((parseSocks5UdpDatagram req).mapError Socks5Error.toIoError)).bind
        fun dgram =>
          (answerDatagram env runtime outbound dgram addr wait).bind
            (sendReply? env relay addr) := by
  unfold relaySocks5UdpDatagram
  refine congrArg (Program.bind _) (funext fun dgram => ?_)
  unfold answerDatagram
  dsimp only
  cases routeAction env runtime
      (outboundTargetFromSocks5Udp env.ipText dgram.address dgram.port) with
  | direct => exact relayDirectDatagram_eq env relay outbound _ _ addr _
  | block => exact eq_bind_none env relay addr _
  | outbound tag =>
    exact relayOutboundDatagram_eq env runtime relay tag _ _ addr wait _
  | hijackDns => exact relayHijackedDatagram_eq env runtime relay _ _ addr _

def Succeeds {σ ε α : Type} (program : Program σ ε α) : Prop := ∀ s, ∃ a s', program s = (.ok a, s')

theorem succeeds_pure (a : α) : Succeeds (Program.pure a : Program σ ε α) :=
  fun s => ⟨a, s, rfl⟩

theorem succeeds_attempt {ε' : Type} (program : Program σ ε α) :
    Succeeds (attempt program : Program σ ε' (Except ε α)) := fun _ => ⟨_, _, rfl⟩

theorem succeeds_bind (h : Succeeds program) (hnext : ∀ a, Succeeds (next a)) :
    Succeeds (program.bind next) := by
  intro s
  obtain ⟨a, s', hrun⟩ := h s
  unfold Program.bind
  rw [hrun]
  exact hnext a s'

def Fails {σ ε α : Type} (program : Program σ ε α) (s : σ) : Prop :=
  ∃ error, (program s).1 = .error error

theorem fails_bind_iff (hnext : ∀ a, Succeeds (next a)) (s : σ) :
    Fails (program.bind next) s ↔ Fails program s := by
  unfold Fails Program.bind
  rcases program s with ⟨error | a, s'⟩
  · exact iff_of_true ⟨error, rfl⟩ ⟨error, rfl⟩
  · obtain ⟨b, s'', hrun⟩ := hnext a s'
    dsimp only
    rw [hrun]
    exact ⟨nofun, nofun⟩

theorem succeeds_instantNow : Succeeds (env.network.instantNow : Net ω IoError Instant) :=
  fun _ => ⟨_, _, rfl⟩

theorem succeeds_emitConnectionReport : Succeeds (emitConnectionReport env report) := fun _ => ⟨_, _, rfl⟩

theorem succeeds_report_none :
    Succeeds (Program.bind (emitConnectionReport env report) fun _ =>
      Program.pure (none : Option Reply)) :=
  succeeds_bind (succeeds_emitConnectionReport env _) fun _ => succeeds_pure _

theorem directAnswer_succeeds (outbound : κ) (target : OutboundTarget) (data : Bytes)
    (addr : SocketAddr) (report : ConnectionReport) :
    Succeeds (directAnswer env outbound target data addr report) := by
  unfold directAnswer
  refine succeeds_bind (succeeds_attempt _) fun resolved => ?_
  cases resolved with
  | error error => exact succeeds_report_none env _
  | ok remoteAddr =>
    refine succeeds_bind (succeeds_instantNow env) fun started => ?_
    refine succeeds_bind (succeeds_attempt _) fun sent => ?_
    cases sent with
    | error error => exact succeeds_report_none env _
    | ok count =>
      refine succeeds_bind (succeeds_attempt _) fun arrival => ?_
      cases arrival with
      | error error => exact succeeds_report_none env _
      | ok recv => exact succeeds_bind (succeeds_instantNow env) fun _ => succeeds_pure _

theorem outboundAnswer_succeeds (tag : String) (target : OutboundTarget) (data : Bytes)
    (wait : Duration) (report : ConnectionReport) :
    Succeeds (outboundAnswer env runtime tag target data wait report) := by
  unfold outboundAnswer
  refine succeeds_bind (succeeds_attempt _) fun relayed => ?_
  cases relayed with
  | error error => exact succeeds_report_none env _
  | ok resp => exact succeeds_pure _

theorem hijackedAnswer_succeeds (target : OutboundTarget) (data : Bytes)
    (report : ConnectionReport) : Succeeds (hijackedAnswer env runtime target data report) := by
  unfold hijackedAnswer
  refine succeeds_bind (succeeds_attempt _) fun built => ?_
  cases built with
  | error error => exact succeeds_report_none env _
  | ok resp => exact succeeds_pure _

theorem answerDatagram_succeeds (outbound : κ) (dgram : Socks5UdpDatagram)
    (addr : SocketAddr) (wait : Duration) :
    Succeeds (answerDatagram env runtime outbound dgram addr wait) := by
  unfold answerDatagram
  dsimp only
  cases routeAction env runtime
      (outboundTargetFromSocks5Udp env.ipText dgram.address dgram.port) with
  | direct => exact directAnswer_succeeds env outbound _ _ addr _
  | block => exact succeeds_report_none env _
  | outbound tag => exact outboundAnswer_succeeds env runtime tag _ _ wait _
  | hijackDns => exact hijackedAnswer_succeeds env runtime _ _ _

def ReplyFails (relay : κ) (clientUdpAddr : SocketAddr) (reply : Reply) (s : Logged ω NetEvent) :
    Prop :=
  match socks5UdpResponse reply.source reply.payload with
  | .error _ => True
  | .ok response => ∃ error, (env.network.sendTo relay response clientUdpAddr s.world).1 = .error error

theorem sendReply_fails_iff (relay : κ) (addr : SocketAddr) (reply : Reply)
    (s : Logged ω NetEvent) :
    Fails (sendReply env relay addr reply) s ↔
      ReplyFails env relay addr reply s := by
  unfold ReplyFails
  cases reply with
  | arrived recv report =>
    refine (fails_bind_iff (fun _ => succeeds_emitConnectionReport env report) s).trans ?_
    unfold replyToClient
    rw [Reply.source, Reply.payload]
    cases socks5UdpResponse recv.source recv.payload with
    | error error => exact iff_of_true ⟨error, rfl⟩ trivial
    | ok resp => exact fails_bind_iff (fun _ => succeeds_pure ()) s
  | made source data report =>
    refine (fails_bind_iff (fun _ => succeeds_emitConnectionReport env report) s).trans ?_
    unfold sendSocks5UdpResponse
    rw [Reply.source, Reply.payload]
    cases socks5UdpResponse source data with
    | error error => exact iff_of_true ⟨error, rfl⟩ trivial
    | ok resp => exact fails_bind_iff (fun _ => succeeds_pure ()) s

def Bad (relay outbound : κ) (responseTimeout : Duration) (request : Received)
    (s : Logged ω NetEvent) : Prop :=
  (∃ error, parseSocks5UdpDatagram request.payload = .error error) ∨
    ∃ datagram reply s', parseSocks5UdpDatagram request.payload = .ok datagram ∧
      answerDatagram env runtime outbound datagram request.source responseTimeout s =
        (.ok (some reply), s') ∧ ReplyFails env relay request.source reply s'

theorem relaySocks5UdpDatagram_fails_iff (relay outbound : κ) (wait : Duration)
    (req : Received) (s : Logged ω NetEvent) :
    Fails (relaySocks5UdpDatagram env runtime relay outbound req.payload req.source
        wait) s ↔
      Bad env runtime relay outbound wait req s := by
  rw [relaySocks5UdpDatagram_eq]
  unfold Bad
  cases hparse : parseSocks5UdpDatagram req.payload with
  | error error =>
    apply iff_of_true
    · exact ⟨_, rfl⟩
    · exact .inl ⟨error, rfl⟩
  | ok dgram =>
    obtain ⟨reply, s', hansw⟩ :=
      answerDatagram_succeeds env runtime outbound dgram req.source wait s
    have hrun : ((answerDatagram env runtime outbound dgram req.source
        wait).bind (sendReply? env relay req.source)) s =
        sendReply? env relay req.source reply s' := by
      unfold Program.bind
      rw [hansw]
    have hfails : Fails (Program.bind (ofExcept (Except.mapError Socks5Error.toIoError (.ok dgram)))
        fun dgram => (answerDatagram env runtime outbound dgram req.source
          wait).bind (sendReply? env relay req.source)) s ↔
        Fails (sendReply? env relay req.source reply) s' := by
      unfold Fails
      rw [← hrun]
      rfl
    rw [hfails]
    cases reply with
    | none =>
      apply iff_of_false
      · rintro ⟨error, herr⟩
        cases herr
      · rintro (⟨error, herr⟩ | ⟨d', reply, s'', hdatagram, hreply, -⟩)
        · cases herr
        · cases hdatagram
          rw [hansw] at hreply
          cases hreply
    | some reply =>
      rw [sendReply?, sendReply_fails_iff]
      constructor
      · intro hfails
        exact .inr ⟨dgram, reply, s', rfl, hansw, hfails⟩
      · rintro (⟨error, herr⟩ | ⟨d', reply', s'', hdatagram, hreply, hfails⟩)
        · cases herr
        · cases hdatagram
          rw [hansw] at hreply
          cases hreply
          exact hfails

variable (relay outbound : κ) (firstByteTimeout idleTimeout : Duration)

inductive SessionReaches (s₀ : Logged ω NetEvent) : SessionClock → Logged ω NetEvent → Prop
  | start {started : Instant} {s : Logged ω NetEvent}
    (h : (env.network.instantNow : Net ω IoError Instant) s₀ = (.ok started, s)) :
    SessionReaches s₀ ⟨started, started, false⟩ s
  | turn {clock clock' : SessionClock} {s s' : Logged ω NetEvent} (h : SessionReaches s₀ clock s)
    (hturn : socks5UdpSessionTurn env runtime relay outbound firstByteTimeout idleTimeout clock s =
      (.ok (.goesOn clock'), s')) :
    SessionReaches s₀ clock' s'

/-- A turn from `s` finds the control stream open and receives a datagram, which leaves `s'`. -/
def ReceivesAt (s : Logged ω NetEvent) (request : Received) (s' : Logged ω NetEvent) : Prop :=
  ∃ s₁, socks5UdpControlIsClosed env s = (.ok false, s₁) ∧
    (quietly (env.network.recvFrom relay 65535) : Net ω IoError Received) s₁ = (.ok request, s')

variable {env runtime relay outbound firstByteTimeout idleTimeout}

theorem socks5UdpSessionTurn_of_receivesAt {req : Received}
    (h : ReceivesAt env relay s req s') (clock : SessionClock) :
    socks5UdpSessionTurn env runtime relay outbound firstByteTimeout idleTimeout clock s =
      (Program.bind (relaySocks5UdpDatagram env runtime relay outbound req.payload req.source
        firstByteTimeout) fun _ => Program.bind env.network.instantNow fun now =>
          Program.pure (.goesOn { clock with lastActivity := now, receivedDatagram := true })) s' := by
  obtain ⟨s₁, hopen, hrecv⟩ := h
  have hatt : (attempt (quietly (env.network.recvFrom relay 65535)) :
      Net ω IoError (Except IoError Received)) s₁ = (.ok (.ok req), s') := by
    unfold attempt
    rw [hrecv]
  unfold socks5UdpSessionTurn
  refine (bind_run hopen).trans ?_
  rw [if_neg Bool.false_ne_true]
  exact bind_run hatt

theorem turn_goesOn_iff {req : Received} (h : ReceivesAt env relay s req s')
    (clock : SessionClock) :
    (∃ clock', (socks5UdpSessionTurn env runtime relay outbound firstByteTimeout idleTimeout
        clock s).1 = .ok (.goesOn clock')) ↔
      ¬ Bad env runtime relay outbound firstByteTimeout req s' := by
  rw [← relaySocks5UdpDatagram_fails_iff, socks5UdpSessionTurn_of_receivesAt h]
  rcases hrun : relaySocks5UdpDatagram env runtime relay outbound req.payload req.source
    firstByteTimeout s' with ⟨error | done, s''⟩
  · apply iff_of_false
    · rw [bind_run_error hrun]
      exact nofun
    · rw [not_not, Fails, hrun]
      exact ⟨error, rfl⟩
  · apply iff_of_true
    · rw [bind_run hrun]
      exact ⟨_, rfl⟩
    · rw [Fails, hrun]
      exact nofun

theorem session_eq_loop {s₀ : Logged ω NetEvent} {clock : SessionClock}
    (h : SessionReaches env runtime relay outbound firstByteTimeout idleTimeout s₀ clock s) :
    ∃ turns, ∀ more,
      relaySocks5UdpSession env runtime relay outbound firstByteTimeout idleTimeout (turns + more) s₀ =
        socks5UdpSessionLoop env runtime relay outbound firstByteTimeout idleTimeout more clock s := by
  induction h with
  | start hnow =>
    refine ⟨0, fun more => ?_⟩
    rw [Nat.zero_add]
    unfold relaySocks5UdpSession
    exact bind_run hnow
  | @turn clock clock' s s' h hturn ih =>
    obtain ⟨turns, hturns⟩ := ih
    refine ⟨turns + 1, fun more => ?_⟩
    rw [Nat.add_right_comm, Nat.add_assoc, hturns (more + 1)]
    exact bind_run hturn

theorem session_fails_of_bad {s₀ : Logged ω NetEvent} {clock : SessionClock} {req : Received}
    (h : SessionReaches env runtime relay outbound firstByteTimeout idleTimeout s₀ clock s)
    (hrecv : ReceivesAt env relay s req s')
    (hbad : Bad env runtime relay outbound firstByteTimeout req s') :
    ∃ turns, ∀ more, Fails (relaySocks5UdpSession env runtime relay outbound firstByteTimeout
      idleTimeout (turns + more)) s₀ := by
  obtain ⟨turns, hturns⟩ := session_eq_loop h
  refine ⟨turns + 1, fun more => ?_⟩
  obtain ⟨error, herr⟩ := (relaySocks5UdpDatagram_fails_iff env runtime relay outbound
    firstByteTimeout req s').mpr hbad
  obtain ⟨s'', hturn⟩ : ∃ s'', socks5UdpSessionTurn env runtime relay outbound firstByteTimeout
      idleTimeout clock s = (.error error, s'') := by
    rw [socks5UdpSessionTurn_of_receivesAt hrecv]
    exact ⟨_, bind_run_error (Prod.ext herr rfl)⟩
  refine ⟨error, ?_⟩
  rw [Nat.add_right_comm, Nat.add_assoc, hturns (more + 1)]
  exact congrArg Prod.fst (bind_run_error hturn)

end

/-- No datagram a session receives ends it exactly if none of them is bad. -/
theorem session_survives_datagrams_iff {ω κ : Type} (env : ProxyEnvironment ω κ)
    (runtime : MixedProxyRuntime) (relay outbound : κ) (firstByteTimeout idleTimeout : Duration)
    (s₀ : Logged ω NetEvent) :
    ((∀ clock s request s',
        SessionReaches env runtime relay outbound firstByteTimeout idleTimeout s₀ clock s →
        ReceivesAt env relay s request s' →
        ∃ clock', (socks5UdpSessionTurn env runtime relay outbound firstByteTimeout idleTimeout
          clock s).1 = .ok (.goesOn clock')) ↔
      ∀ clock s request s',
        SessionReaches env runtime relay outbound firstByteTimeout idleTimeout s₀ clock s →
        ReceivesAt env relay s request s' →
        ¬ Bad env runtime relay outbound firstByteTimeout request s') ∧
    ∀ clock s request s',
      SessionReaches env runtime relay outbound firstByteTimeout idleTimeout s₀ clock s →
      ReceivesAt env relay s request s' →
      Bad env runtime relay outbound firstByteTimeout request s' →
      ∃ turns, ∀ more, Fails (relaySocks5UdpSession env runtime relay outbound firstByteTimeout
        idleTimeout (turns + more)) s₀ := by
  refine ⟨?_, fun clock s request s' => session_fails_of_bad⟩
  constructor
  · intro h clock s request s' hreaches hrecv
    exact (turn_goesOn_iff hrecv clock).mp (h clock s request s' hreaches hrecv)
  · intro h clock s request s' hreaches hrecv
    exact (turn_goesOn_iff hrecv clock).mpr (h clock s request s' hreaches hrecv)

/-- After a datagram of one byte the session fails and a valid one is not forwarded. -/
theorem short_datagram_ends_session :
    let client : SocketAddr := ⟨.v4 .localhost, 5000⟩
    let server : SocketAddr := ⟨.v4 ⟨192, 0, 2, 1⟩, 443⟩
    let short : Received := ⟨[0], client, none⟩
    let valid : Received := ⟨[0, 0, 0, 1, 192, 0, 2, 1, 1, 187, 7], client, none⟩
    let answer : Received := ⟨[9], server, some 0⟩
    let session := relaySocks5UdpSession (scriptEnvironment server)
      (scriptRuntime ⟨[], .direct⟩ ⟨.allowSystem, .dualStack, 0⟩) .relay .outbound 30000 300000
    (session 2 ⟨⟨[short, valid], [answer]⟩, []⟩).1 =
        .error ⟨.invalidData, "SOCKS5 UDP datagram is truncated"⟩ ∧
      (session 2 ⟨⟨[short, valid], [answer]⟩, []⟩).2.events = [] ∧
      (session 1 ⟨⟨[valid], [answer]⟩, []⟩).1 = .ok none ∧
      (session 1 ⟨⟨[valid], [answer]⟩, []⟩).2.events =
        [.forward client server, .arrive server (some 0), .reply client server (some 0)] := by
  decide +kernel

end KeliNative.Proxy
