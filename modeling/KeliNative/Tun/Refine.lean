import KeliNative.Tun.MarkerOps

/-!
# Every step is a run of the flow machine

The relay is watched through `recording`, which logs each call with its result.
-/

namespace KeliNative.Tun
open TunTcpSessionTable Program TunTcpSessionKey

/-! ### Watching the relay -/

section

variable {ρ α : Type}

def record (event : Except String α → RelayEvent) (call : ρ → Except String α × ρ) :
    ρ × List RelayEvent → Except String α × (ρ × List RelayEvent) := fun (relayState, log) =>
  let (result, relayState) := call relayState
  (result, (relayState, log ++ [event result]))

def TunTcpSessionRelay.recording (relay : TunTcpSessionRelay ρ) :
    TunTcpSessionRelay (ρ × List RelayEvent) where
  establishSession session :=
    record (.establish session none) (relay.establishSession session)
  establishSessionWithPlan session plan :=
    record (.establish session (some plan)) (relay.establishSessionWithPlan session plan)
  writeClientPayload frame := record (.write frame) (relay.writeClientPayload frame)
  shutdownClientWrite session := record (.shutdown session) (relay.shutdownClientWrite session)
  readServerEvent session := record (.read session) (relay.readServerEvent session)
  pollServerEvent session := record (.poll session) (relay.pollServerEvent session)
  closeSession session := record (.close session) (relay.closeSession session)

theorem recording_establish (relay : TunTcpSessionRelay ρ) (plan : Option TunPacketRelayPlan)
    (sess : TunTcpSessionRecord) :
    relay.recording.establish plan sess =
      record (.establish sess plan) (relay.establish plan sess) := by
  cases plan <;> rfl

end

/-! ### Positions -/

/-- Where a step has come to: `key` is at `state`, every other key is as in `table₀`,
and `calls` have been made since `log₀`. -/
structure Position {ρ : Type} (key : TunTcpSessionKey) (table₀ : TunTcpSessionTable)
    (log₀ calls : List RelayEvent) (state : FlowState)
    (s : TunTcpSessionTable × (ρ × List RelayEvent)) : Prop where
  inv : s.1.Inv
  updated : table₀.Updated s.1 key state
  log : s.2.2 = log₀ ++ calls

theorem Position.at_key {ρ : Type} {key : TunTcpSessionKey} {table₀ : TunTcpSessionTable}
    {log₀ calls : List RelayEvent} {state : FlowState}
    {s : TunTcpSessionTable × (ρ × List RelayEvent)} (h : Position key table₀ log₀ calls state s) :
    s.1.At key state := h.updated.at_key

/-- How a step's result reports its run. -/
def Reports (control : Control) (packets : List Bytes) :
    Except TunTcpSessionError TunTcpSessionStep → Prop
  | .ok step => step.responsePackets = packets
  | .error (.relay _) => control = .failed
  | .error (.packet _) => control.running = true ∨ control = .refused

def Refined {ρ : Type} (key : TunTcpSessionKey) (a : Arrival) (table₀ : TunTcpSessionTable)
    (state₀ : FlowState) (log₀ : List RelayEvent)
    (result : Except TunTcpSessionError TunTcpSessionStep)
    (s : TunTcpSessionTable × (ρ × List RelayEvent)) : Prop :=
  ∃ control state calls packets, Position key table₀ log₀ calls state s ∧
    FlowEffect key a state₀ calls packets control state ∧ Reports control packets result

section

variable {ρ α β : Type} {key : TunTcpSessionKey} {a : Arrival} {table₀ : TunTcpSessionTable}
  {state₀ state : FlowState} {log₀ calls : List RelayEvent} {packets : List Bytes}
  {control : Control} {s : TunTcpSessionTable × (ρ × List RelayEvent)}

theorem Position.move (h : Position key table₀ log₀ calls state s) {table' : TunTcpSessionTable}
    {st' : FlowState} (hu : s.1.Updated table' key st') (hwf : st'.WellFormed key) :
    Position key table₀ log₀ calls st' (table', s.2) :=
  ⟨hu.inv h.inv hwf, h.updated.trans hu, h.log⟩

variable {response : TunTcpCloseFrame} {rel : FlowState → α → FlowState → Prop}
  {r : TunTcpSessionRecord}
  {post : Except TunTcpSessionError β → TunTcpSessionTable × (ρ × List RelayEvent) → Prop}

theorem ensures_onTable {operation : TableProgram (Option α)}
    (hop : Localized key a.now operation rel) (hpos : Position key table₀ log₀ calls state s)
    {found : α → SessionProgram (ρ × List RelayEvent) β}
    {next : SessionProgram (ρ × List RelayEvent) β}
    (hfound : ∀ x st' s', rel state x st' → Position key table₀ log₀ calls st' s' →
      Ensures (found x) s' post)
    (hnext : (operation s.1).1 = .ok none → ∀ s', Position key table₀ log₀ calls state s' →
      Ensures next s' post)
    (herr : ∀ error st' s', Position key table₀ log₀ calls st' s' →
      (st' = state ∨ ∃ r, state = .active r ∧ st' = .active (r.touched a.now)) →
      post (.error (.packet error)) s') :
    Ensures (ifLet (onTable operation) found next) s post := by
  obtain ⟨table, init⟩ := s
  obtain ⟨st', hu, hwf, hout⟩ := hop table state hpos.inv hpos.at_key
  have hpos' := hpos.move hu hwf
  unfold Ensures ifLet Program.bind onTable
  rcases hrun : operation table with ⟨res, table'⟩
  rw [hrun] at hu hout hpos'
  simp only [hrun] at hnext ⊢
  cases hout with
  | none => exact hnext rfl _ hpos'
  | some hrel => exact hfound _ _ _ hrel hpos'
  | refused error => exact herr error _ _ hpos' (.inl rfl)
  | touched hactive error => exact herr error _ _ hpos' (.inr ⟨_, hactive, rfl⟩)

theorem ensures_onTable_raw {operation : TableProgram α}
    {post : Except TunPacketError α → TunTcpSessionTable → Prop}
    (hop : Ensures operation s.1 post) :
    Ensures (onTable operation) s fun res s' =>
      ∃ res' table', res = res'.mapError .packet ∧ s' = (table', s.2) ∧
        post res' table' :=
  ⟨_, _, rfl, rfl, hop⟩

theorem ensures_call {ev : Except String α → RelayEvent} {call : ρ → Except String α × ρ}
    (hpos : Position key table₀ log₀ calls state s)
    {next : α → SessionProgram (ρ × List RelayEvent) β}
    (hok : ∀ x s', Position key table₀ log₀ (calls ++ [ev (.ok x)]) state s' →
      Ensures (next x) s' post)
    (herr : ∀ error s', Position key table₀ log₀ (calls ++ [ev (.error error)]) state s' →
      post (.error (.relay error)) s') :
    Ensures (Program.bind (callRelay (record ev call)) next) s post := by
  obtain ⟨table, init, log⟩ := s
  unfold Ensures Program.bind callRelay record
  rcases hcall : call init with ⟨res, relayState'⟩
  have hlog : log ++ [ev res] = log₀ ++ (calls ++ [ev res]) := by
    rw [show log = log₀ ++ calls from hpos.log, List.append_assoc]
  simp only [hcall]
  cases res with
  | ok x => exact hok x (table, relayState', _) ⟨hpos.inv, hpos.updated, hlog⟩
  | error error => exact herr error (table, relayState', _) ⟨hpos.inv, hpos.updated, hlog⟩

theorem refined_refused (hctl : control.running = true)
    (hrun : FlowRun key a .start state₀ calls packets control state) (error : TunPacketError)
    (st' : FlowState) (s' : TunTcpSessionTable × (ρ × List RelayEvent))
    (hpos : Position key table₀ log₀ calls st' s')
    (hst : st' = state ∨ ∃ r, state = .active r ∧ st' = .active (r.touched a.now)) :
    Refined key a table₀ state₀ log₀ (.error (.packet error)) s' := by
  rcases hst with rfl | ⟨r, rfl, rfl⟩
  · exact ⟨_, _, _, _, hpos, .run hrun, .inl hctl⟩
  · have hrun' := FlowRun.step hrun (.touched hctl)
    simp only [List.append_nil] at hrun'
    exact ⟨_, _, _, _, hpos, .run hrun', .inr rfl⟩

theorem refined_done {st' : FlowState} {c' : Control} {packets' : List Bytes}
    {step : TunTcpSessionStep} {s' : TunTcpSessionTable × (ρ × List RelayEvent)}
    (hrun : FlowRun key a .start state₀ calls packets control state)
    (hstep : FlowStep key a control state [] packets' c' st')
    (hpos : Position key table₀ log₀ calls st' s')
    (hpkts : step.responsePackets = packets ++ packets') :
    Refined key a table₀ state₀ log₀ (.ok step) s' := by
  have hrun' := FlowRun.step hrun hstep
  simp only [List.append_nil] at hrun'
  exact ⟨_, _, _, _, hpos, .run hrun', hpkts⟩

/-! ### Reading from the server -/

/-- What the read after client data leaves: the packets it adds are the server's. -/
def ReadRefined (key : TunTcpSessionKey) (a : Arrival) (table₀ : TunTcpSessionTable)
    (state₀ : FlowState) (log₀ : List RelayEvent) (packets : List Bytes)
    (result : Except TunTcpSessionError
      (Option TunTcpServerPayloadFrame × Option TunTcpServerCloseFrame))
    (s : TunTcpSessionTable × (ρ × List RelayEvent)) : Prop :=
  ∃ control state calls packets', Position key table₀ log₀ calls state s ∧
    FlowRun key a .start state₀ calls packets' control state ∧
    match result with
    | .ok (serverResponse, serverClose) =>
        packets' = packets ++ serverPackets serverResponse serverClose
    | .error (.relay _) => control = .failed
    | .error (.packet _) => control.running = true ∨ control = .refused

variable {relay : TunTcpSessionRelay ρ} {r : TunTcpSessionRecord}

section

variable (hpos : Position key table₀ log₀ calls (.active r) s)

include hpos

theorem ensures_closeFromServer (hph : tunTcpPhaseAcceptsServerResponse r.phase = true) :
    Ensures (closeTunTcpSessionFromServer relay.recording a.now r) s fun out s' =>
      ∃ packet res, buildTunTcpFinAckResponsePacket r.flow r.serverNextSequenceNumber
        r.clientNextSequenceNumber r.windowSize = .ok packet ∧
      Position key table₀ log₀ (calls ++ [.close r res]) (.serverClosed ⟨⟨r,
        r.serverNextSequenceNumber, r.clientNextSequenceNumber, packet⟩, a.now⟩) s' ∧
      out = (res.mapError .relay).map fun _ =>
        some ⟨r, r.serverNextSequenceNumber, r.clientNextSequenceNumber, packet⟩ := by
  have hwf : r.WellFormed key := hpos.inv.wellFormed hpos.at_key
  obtain ⟨packet, hpkt, hclose⟩ := closeServerSide_spec hpos.inv hpos.at_key hph a.now
  unfold closeTunTcpSessionFromServer
  rw [hwf.key_eq]
  refine ensures_bind (ensures_onTable_raw hclose) ?_ ?_
  · rintro x s' ⟨res', table', hres', rfl, rfl, hu, hwf'⟩
    cases hres'
    refine ensures_call (hpos.move hu hwf') ?_ ?_
    · intro _ s' hpos'
      exact ⟨packet, .ok (), hpkt, hpos', rfl⟩
    · intro error s' hpos'
      exact ⟨packet, .error error, hpkt, hpos', rfl⟩
  · rintro error s' ⟨res', table', hres', rfl, rfl, _⟩
    cases hres'

theorem ensures_readServerEvent {packets : List Bytes}
    (hrun : FlowRun key a .start state₀ calls packets .reading (.active r))
    (hph : tunTcpPhaseAcceptsServerResponse r.phase = true) :
    Ensures (readTunTcpServerEvent relay.recording a.now r) s
      (ReadRefined key a table₀ state₀ log₀ packets) := by
  refine ensures_call hpos ?_ ?_
  · intro read s' hpos'
    have hwf : r.WellFormed key := hpos'.inv.wellFormed hpos'.at_key
    cases read with
    | noPayload =>
      have hrun' := FlowRun.step hrun (.readNothing hph .read (.inl rfl))
      exact ⟨_, _, _, _, hpos', hrun', rfl⟩
    | payload data =>
      have hsend := sendServerPayload_spec hpos'.inv hpos'.at_key hwf.fromFlow hph data a.now
      refine ensures_bind (ensures_onTable_raw hsend) ?_ ?_
      · rintro response s'' ⟨res', table', hres', rfl, hcases⟩
        rcases hcases with ⟨rfl, rfl, rfl⟩ | ⟨_, _, rfl, _⟩ | ⟨packet, hne, hpkt, rfl, hu, hwf'⟩
        · cases hres'
          have hrun' := FlowRun.step hrun (.readNothing hph .read (.inr rfl))
          exact ⟨_, _, _, _, hpos', hrun', rfl⟩
        · cases hres'
        · cases hres'
          have hrun' := FlowRun.step hrun (.sent hph .read hne hpkt)
          exact ⟨_, _, _, _, hpos'.move hu hwf', hrun', rfl⟩
      · rintro error s'' ⟨res', table', hres', rfl, hcases⟩
        rcases hcases with ⟨rfl, rfl, rfl⟩ | ⟨hsize, error', rfl, rfl⟩ | ⟨_, _, _, rfl, _, _⟩
        · cases hres'
        · cases hres'
          have hrun' := FlowRun.step hrun (.oversized hph .read hsize)
          exact ⟨_, _, _, _, hpos', hrun', .inr rfl⟩
        · cases hres'
    | closed =>
      refine ensures_bind (ensures_closeFromServer hpos' hph) ?_ ?_
      · rintro response s'' ⟨packet, res, hpkt, hpos'', houtcome⟩
        have hrun' := FlowRun.step hrun (.closedByServer hph .read hpkt res)
        rw [List.append_assoc] at hpos''
        cases res with
        | ok _ =>
          cases houtcome
          exact ⟨_, _, _, _, hpos'', hrun', rfl⟩
        | error error => cases houtcome
      · rintro error s'' ⟨packet, res, hpkt, hpos'', houtcome⟩
        have hrun' := FlowRun.step hrun (.closedByServer hph .read hpkt res)
        rw [List.append_assoc] at hpos''
        cases res with
        | ok _ => cases houtcome
        | error error =>
          cases houtcome
          exact ⟨_, _, _, _, hpos'', hrun', rfl⟩
  · intro error s' hpos'
    have hrun' := FlowRun.step hrun (.readFailed hph error .read)
    exact ⟨_, _, _, _, hpos', hrun', rfl⟩

theorem ensures_readThen {packets : List Bytes}
    {next : Option TunTcpServerPayloadFrame × Option TunTcpServerCloseFrame →
      SessionProgram (ρ × List RelayEvent) TunTcpSessionStep}
    (hrun : FlowRun key a .start state₀ calls packets .reading (.active r))
    (hph : tunTcpPhaseAcceptsServerResponse r.phase = true)
    (hnext : ∀ resp close s', ∃ step,
      step.responsePackets = packets ++ serverPackets resp close ∧
      next (resp, close) s' = (.ok step, s')) :
    Ensures (Program.bind (readTunTcpServerEvent relay.recording a.now r) next) s
      (Refined key a table₀ state₀ log₀) := by
  refine ensures_bind (ensures_readServerEvent hpos hrun hph) ?_ ?_
  · rintro ⟨resp, close⟩ s' ⟨control, state, calls', packets', hpos', hrun', rfl⟩
    obtain ⟨step, hpkts, hstep⟩ := hnext resp close s'
    unfold Ensures
    rw [hstep]
    exact ⟨_, _, _, _, hpos', .run hrun', hpkts⟩
  · rintro error s' ⟨control, state, calls', packets', hpos', hrun', hctl⟩
    refine ⟨_, _, _, _, hpos', .run hrun', ?_⟩
    cases error with
    | packet _ => exact hctl
    | relay _ => exact hctl

end

/-! ### Client `FIN` -/

theorem acknowledged_phase (segment : TunTcpSegment) (now : Instant) (r : TunTcpSessionRecord) :
    (r.acknowledged segment now).phase = r.phase := clear_phase segment r

theorem ensures_duplicateFinStep (hsess : response.session = r)
    (hpos : Position key table₀ log₀ calls (.active r) s)
    (hrun : FlowRun key a .start state₀ calls [response.packet] .reading (.active r))
    (hph : tunTcpPhaseAcceptsServerResponse r.phase = true) :
    Ensures (duplicateFinStep relay.recording a.now response) s
      (Refined key a table₀ state₀ log₀) := by
  subst hsess
  refine ensures_readThen hpos hrun hph ?_
  intro resp close s'
  simp only
  split
  · exact ⟨_, rfl, rfl⟩
  next hnone =>
    refine ⟨.serverCloseClientFinAck response, ?_, rfl⟩
    cases resp <;> cases close <;> simp_all [serverPackets,
      TunTcpSessionStep.responsePackets]

section

variable {packet : Bytes}
  (hresp : response = ⟨r.finished a.segment a.now, r.serverNextSequenceNumber,
    tcpSegmentNextSequenceNumber a.segment, packet⟩)
  (hfin : isClientFin a.segment = true) (hacpt : acceptsClientFin a.segment r = true)
  (hpkt : buildTunTcpAckResponsePacket r.flow r.serverNextSequenceNumber
    (tcpSegmentNextSequenceNumber a.segment) r.windowSize = .ok packet)
  (hpos : Position key table₀ log₀ [] (.active (r.finished a.segment a.now)) s)
  (hst : state₀ = .active r)

include hresp hfin hacpt hpkt hpos hst

theorem ensures_clientFinWithPayloadStep (hpay : a.segment.payload ≠ []) :
    Ensures (clientFinWithPayloadStep relay.recording a.now (a.finFrame r packet) response) s
      (Refined key a table₀ state₀ log₀) := by
  subst hst hresp
  refine ensures_call hpos ?_ ?_
  · intro _ s' hpos'
    refine ensures_call hpos' ?_ ?_
    · intro _ s'' hpos''
      have hrun : FlowRun key a .start (.active r) _ _ _ _ :=
        .single (.finTaken hfin hacpt hpkt (.payload hpay (.ok ())))
      refine ensures_readThen hpos'' hrun rfl ?_
      intro resp close s'
      exact ⟨_, rfl, rfl⟩
    · intro error s'' hpos''
      have hrun : FlowRun key a .start (.active r) _ _ _ _ :=
        .single (.finTaken hfin hacpt hpkt (.payload hpay (.error error)))
      exact ⟨_, _, _, _, hpos'', .run hrun, rfl⟩
  · intro error s' hpos'
    have hrun : FlowRun key a .start (.active r) _ _ _ _ :=
      .single (.finTaken hfin hacpt hpkt (.writeFailed hpay error))
    exact ⟨_, _, _, _, hpos', .run hrun, rfl⟩

theorem ensures_clientFinStep (hpay : a.segment.payload = []) :
    Ensures (clientFinStep relay.recording a.now response) s (Refined key a table₀ state₀ log₀) := by
  subst hst hresp
  refine ensures_call hpos ?_ ?_
  · intro _ s' hpos'
    have hrun : FlowRun key a .start (.active r) _ _ _ _ :=
      .single (.finTaken hfin hacpt hpkt (.bare hpay (.ok ())))
    refine ensures_readThen hpos' hrun rfl ?_
    intro resp close s'
    exact ⟨_, rfl, rfl⟩
  · intro error s' hpos'
    have hrun : FlowRun key a .start (.active r) _ _ _ _ :=
      .single (.finTaken hfin hacpt hpkt (.bare hpay (.error error)))
    exact ⟨_, _, _, _, hpos', .run hrun, rfl⟩

end

/-! ### The blocks of a closing segment -/

variable {next : SessionProgram (ρ × List RelayEvent) TunTcpSessionStep}

theorem ensures_firstOp {operation : TableProgram (Option α)}
    (hop : Localized key a.now operation rel) (hpos : Position key table₀ log₀ [] state₀ s)
    {found : α → SessionProgram (ρ × List RelayEvent) TunTcpSessionStep}
    (hfound : ∀ x st' s', rel state₀ x st' → Position key table₀ log₀ [] st' s' →
      Ensures (found x) s' (Refined key a table₀ state₀ log₀))
    (hnext : ∀ s', Position key table₀ log₀ [] state₀ s' →
      Ensures next s' (Refined key a table₀ state₀ log₀)) :
    Ensures (ifLet (onTable operation) found next) s (Refined key a table₀ state₀ log₀) :=
  ensures_onTable hop hpos hfound (fun _ => hnext) (refined_refused rfl (.refl .start state₀))

variable (hkey : TunTcpSessionKey.fromFlow a.segment.flow = .ok key)
  (hpos : Position key table₀ log₀ [] state₀ s)
  (hnext : ∀ s', Position key table₀ log₀ [] state₀ s' →
    Ensures next s' (Refined key a table₀ state₀ log₀))

include hkey hpos hnext

theorem ensures_clientFinBlock :
    Ensures (clientFinBlock relay.recording a.segment a.now next) s
      (Refined key a table₀ state₀ log₀) := by
  unfold clientFinBlock
  split
  · refine ensures_firstOp (retransmitServerPayloadForDuplicateClientFin_localized a hkey) hpos ?_ ?_
    · intro response st' s' hstep hpos'
      exact refined_done (.refl .start state₀) hstep hpos' rfl
    · intro s' hpos'
      refine ensures_firstOp (acknowledgeDuplicateClientFin_localized a hkey) hpos' ?_ ?_
      · rintro response st' s'' ⟨r, hstep, rfl, hsess, hph⟩ hpos''
        exact ensures_duplicateFinStep hsess hpos'' (.single hstep) hph
      · intro s'' hpos''
        split
        next hpay =>
          refine ensures_firstOp (acceptClientFinWithPayload_localized a hkey) hpos'' ?_ hnext
          rintro found st' s₃ ⟨r, packet, hst, hfin, hacpt, hpkt, rfl, rfl⟩ hpos₃
          exact ensures_clientFinWithPayloadStep rfl hfin hacpt hpkt hpos₃ hst hpay
        next hpay =>
          refine ensures_firstOp (acknowledgeClientFin_localized a hkey) hpos'' ?_ hnext
          rintro response st' s₃ ⟨r, packet, hst, hfin, hacpt, hpkt, hresp, rfl⟩ hpos₃
          exact ensures_clientFinStep hresp hfin hacpt hpkt hpos₃ hst
            (not_not.mp hpay)
  · exact hnext s hpos

theorem ensures_removeBlock :
    Ensures (removeBlock relay.recording a.segment a.now next) s
      (Refined key a table₀ state₀ log₀) := by
  refine ensures_firstOp (removeOnClose_localized a hkey) hpos ?_ hnext
  rintro ⟨sess, response⟩ st' s' ⟨r, hst, hmatch, hsess, hcases⟩ hpos'
  obtain rfl : sess = r := hsess
  subst hst
  rcases hcases with ⟨hrst, hresp, rfl⟩ | ⟨packet, hfin, hrst, hpkt, hresp, rfl⟩
  · refine ensures_call hpos' ?_ ?_
    · intro _ s'' hpos''
      obtain rfl : response = none := hresp
      exact ⟨_, _, _, _, hpos'', .run (.single (.removedByRst hrst hmatch (.ok ()))), rfl⟩
    · intro error s'' hpos''
      exact ⟨_, _, _, _, hpos'', .run (.single (.removedByRst hrst hmatch (.error error))), rfl⟩
  · refine ensures_call hpos' ?_ ?_
    · intro _ s'' hpos''
      obtain rfl : response = some _ := hresp
      exact ⟨_, _, _, _, hpos'', .run (.single (.removedByFin hfin hrst hmatch hpkt (.ok ()))), rfl⟩
    · intro error s'' hpos''
      exact ⟨_, _, _, _, hpos'', .run (.single (.removedByFin hfin hrst hmatch hpkt (.error error))),
        rfl⟩

theorem ensures_closeMarkerFinBlock :
    Ensures (closeMarkerFinBlock a.segment a.now next) s (Refined key a table₀ state₀ log₀) := by
  unfold closeMarkerFinBlock
  split
  · refine ensures_firstOp (acknowledgeServerCloseWithClientFin_localized a hkey) hpos ?_ ?_
    · intro response st' s' hstep hpos'
      exact refined_done (.refl .start state₀) hstep hpos' rfl
    · intro s' hpos'
      refine ensures_firstOp (retransmitServerCloseForDuplicateClientFin_localized a hkey) hpos' ?_ ?_
      · intro response st' s'' hstep hpos''
        exact refined_done (.refl .start state₀) hstep hpos'' rfl
      · intro s'' hpos''
        refine ensures_firstOp (acknowledgePostCloseClientFin_localized a hkey) hpos'' ?_ hnext
        intro response st' s₃ hstep hpos₃
        exact refined_done (.refl .start state₀) hstep hpos₃ rfl
  · exact hnext s hpos

theorem ensures_closeMarkerRstBlock :
    Ensures (closeMarkerRstBlock a.segment next) s (Refined key a table₀ state₀ log₀) := by
  unfold closeMarkerRstBlock
  split
  · refine ensures_firstOp (removeServerCloseOnRst_localized a hkey) hpos ?_ ?_
    · intro sess st' s' hstep hpos'
      exact refined_done (.refl .start state₀) hstep hpos' rfl
    · intro s' hpos'
      refine ensures_firstOp (removePostCloseOnRst_localized a hkey) hpos' ?_ hnext
      intro sess st' s'' hstep hpos''
      exact refined_done (.refl .start state₀) hstep hpos'' rfl
  · exact hnext s hpos

omit hnext in
theorem ensures_getFlow {found : TunTcpSessionRecord → SessionProgram (ρ × List RelayEvent) β}
    {next : SessionProgram (ρ × List RelayEvent) β}
    (hfound : ∀ r, state₀ = .active r → Ensures (found r) s post)
    (hnone : state₀.session = none → Ensures next s post) :
    Ensures (ifLet (onTable (getFlow a.segment.flow)) found next) s post := by
  have hget : getFlow a.segment.flow s.1 = (.ok state₀.session, s.1) := by
    simp only [getFlow, hkey, hpos.at_key.session]
  unfold Ensures ifLet Program.bind onTable
  simp only [hget]
  cases hsess : state₀.session with
  | none => exact hnone hsess
  | some r => exact hfound r (FlowState.session_eq_some.mp hsess)

omit hkey hnext in
theorem ensures_resetStep (hunk : state₀.session = none) :
    Ensures (resetStep a.segment) s (Refined key a table₀ state₀ log₀) := by
  unfold Ensures resetStep buildTunTcpSessionResetFrame
  cases hbuild : buildTunTcpResetResponsePacket a.segment with
  | error error => exact refined_refused rfl (.refl .start state₀) error state₀ s hpos (.inl rfl)
  | ok packet => exact refined_done (.refl .start state₀) (.reset hunk hbuild) hpos rfl

theorem ensures_unknownFinBlock :
    Ensures (unknownFinBlock a.segment next) s (Refined key a table₀ state₀ log₀) := by
  unfold unknownFinBlock
  split
  · exact ensures_getFlow hkey hpos (fun _ _ => hnext s hpos) (ensures_resetStep hpos)
  · exact hnext s hpos

omit hkey hnext in
theorem ensures_noop : Ensures (Program.pure .noop) s (Refined key a table₀ state₀ log₀) :=
  ⟨_, _, _, _, hpos, .run (.refl .start state₀), rfl⟩

omit hnext in
theorem ensures_processClosingSegment :
    Ensures (processClosingSegment relay.recording a.segment a.now) s
      (Refined key a table₀ state₀ log₀) := by
  refine ensures_clientFinBlock hkey hpos fun s₁ hpos₁ => ?_
  refine ensures_removeBlock hkey hpos₁ fun s₂ hpos₂ => ?_
  refine ensures_closeMarkerFinBlock hkey hpos₂ fun s₃ hpos₃ => ?_
  refine ensures_unknownFinBlock hkey hpos₃ fun s₄ hpos₄ => ?_
  exact ensures_closeMarkerRstBlock hkey hpos₄ fun s₅ hpos₅ => ensures_noop hpos₅

/-! ### Initial `SYN` -/

omit hnext in
theorem ensures_startFromSyn (hfin : a.segment.flags.fin = false) (hnew : ∀ r, state₀ = .active r →
    r.phase = .synReceived ∧
    a.segment.sequenceNumber ≠ r.clientInitialSequenceNumber) :
    Ensures (Program.bind (onTable (startFromSyn a.segment a.serverInitialSequenceNumber a.windowSize
      a.now)) fun response => Program.pure (.synAck response)) s
      (Refined key a table₀ state₀ log₀) := by
  refine ensures_bind (ensures_onTable_raw (startFromSyn_spec a hkey hpos.inv)) ?_ ?_
  · rintro response s' ⟨res', table', hres', rfl, hcases⟩
    rcases hcases with ⟨error, rfl, rfl⟩ | ⟨packet, hsyn, hpkt, rfl, hu⟩
    · cases hres'
    · cases hres'
      have hwf := newSession_wellFormed a hkey hpkt
      exact ⟨_, _, _, _, hpos.move hu hwf, .started hsyn hfin hnew hpkt, rfl⟩
  · rintro error s' ⟨res', table', hres', rfl, hcases⟩
    rcases hcases with ⟨error', rfl, rfl⟩ | ⟨packet, hsyn, hpkt, rfl, hu⟩
    · cases hres'
      exact refined_refused rfl (.refl .start state₀) error' state₀ s hpos (.inl rfl)
    · cases hres'

omit hnext in
theorem acknowledgeRetransmittedSyn_ne_none (hst : state₀ = .active r)
    (hsyn : isInitialTcpSynSegment a.segment = true) (hph : r.phase = .synReceived)
    (hseq : a.segment.sequenceNumber = r.clientInitialSequenceNumber) :
    (acknowledgeRetransmittedSyn a.segment a.now s.1).1 ≠ .ok none := by
  subst hst
  have hsess : s.1.sessions.lookup key = some r := hpos.at_key.session
  simp only [acknowledgeRetransmittedSyn, hsyn, Bool.true_eq_false, ite_false, withSession, hkey,
    hsess, hph, hseq, and_self, ite_true, answer]
  cases buildTunTcpSynAckResponsePacket a.segment r.serverInitialSequenceNumber r.windowSize <;>
    simp

omit hnext in
theorem ensures_processInitialSyn (hsyn : isInitialTcpSynSegment a.segment = true)
    (hfin : a.segment.flags.fin = false) :
    Ensures (processInitialSyn a.segment a.now a.serverInitialSequenceNumber a.windowSize) s
      (Refined key a table₀ state₀ log₀) := by
  refine ensures_onTable (acknowledgeRetransmittedSyn_localized a hkey) hpos ?_ ?_
    (refined_refused rfl (.refl .start state₀))
  · intro response st' s' hstep hpos'
    exact refined_done (.refl .start state₀) (hstep hfin) hpos' rfl
  · intro hnone s' hpos'
    refine ensures_getFlow hkey hpos' ?_ ?_
    · rintro r rfl
      split
      · exact ensures_noop hpos'
      next hph =>
        have hph' : r.phase = .synReceived := by
          cases hp : r.phase <;> simp_all [tunTcpPhaseAcceptsServerResponse]
        refine ensures_startFromSyn hkey hpos' hfin ?_
        intro r' hr'
        cases hr'
        refine ⟨hph', fun hseq => ?_⟩
        exact acknowledgeRetransmittedSyn_ne_none hkey hpos rfl hsyn hph' hseq hnone
    · intro hunk
      refine ensures_startFromSyn hkey hpos' hfin ?_
      rintro r rfl
      cases hunk

/-! ### Everything else -/

omit hkey hpos hnext

/-- The handshake's last `ACK`: nothing happens, or the session opens and the relay is told. -/
def EstablishRefined (key : TunTcpSessionKey) (a : Arrival) (table₀ : TunTcpSessionTable)
    (state₀ : FlowState) (log₀ : List RelayEvent)
    (result : Except TunTcpSessionError (Option TunTcpSessionRecord))
    (s : TunTcpSessionTable × (ρ × List RelayEvent)) : Prop :=
  match result with
  | .ok none => Position key table₀ log₀ [] state₀ s
  | .ok (some session) => ∃ calls, Position key table₀ log₀ calls (.active session) s ∧
      FlowRun key a .start state₀ calls [] .opened (.active session)
  | .error error => Refined key a table₀ state₀ log₀ (.error error) s

theorem ensures_establishBlock (hkey : fromFlow a.segment.flow = .ok key)
    (hpos : Position key table₀ log₀ [] state₀ s) :
    Ensures (establishBlock relay.recording a.segment a.relayPlan a.now) s
      (EstablishRefined key a table₀ state₀ log₀) := by
  unfold establishBlock
  split
  · refine ensures_onTable (applyAck_localized a hkey) hpos ?_ (fun _ _ hpos' => hpos')
      (refined_refused rfl (.refl .start state₀))
    rintro sess st' s' ⟨r, rfl, hopens, rfl, rfl⟩ hpos'
    rw [recording_establish]
    refine ensures_call hpos' ?_ ?_
    · intro _ s'' hpos''
      exact ⟨_, hpos'', .single (.opened hopens (.ok ()))⟩
    · intro error s'' hpos''
      exact ⟨_, _, _, _, hpos'', .run (.single (.opened hopens (.error error))), rfl⟩
  · exact hpos

theorem taken_phase (segment : TunTcpSegment) (now : Instant) (r : TunTcpSessionRecord) :
    (r.taken segment now).phase = r.phase := clear_phase segment r

theorem acceptsClientData_established {segment : TunTcpSegment}
    (h : acceptsClientData segment r = true) : r.phase = .established := by
  simp only [acceptsClientData, Bool.and_eq_true, beq_iff_eq] at h
  exact h.1.1.1.1.1

theorem ensures_clientPayloadStep (hctl : control = .start ∨ control = .opened)
    (hrun : FlowRun key a .start state₀ calls [] control (.active r))
    (hfin : a.segment.flags.fin = false) {frame : TunTcpClientPayloadFrame}
    (hdata : a.TakesData r frame)
    (hpos : Position key table₀ log₀ calls (.active (r.taken a.segment a.now)) s)
    {step : Option TunTcpServerPayloadFrame → Option TunTcpServerCloseFrame → TunTcpSessionStep}
    (hstep : ∀ x y, (step x y).responsePackets = frame.ackPacket :: serverPackets x y) :
    Ensures (clientPayloadStep relay.recording a.now frame step) s
      (Refined key a table₀ state₀ log₀) := by
  refine ensures_call hpos ?_ ?_
  · intro _ s' hpos'
    have hrun' := FlowRun.step hrun (.wrote hctl hdata hfin (.ok ()))
    have hph : tunTcpPhaseAcceptsServerResponse (r.taken a.segment a.now).phase = true := by
      rw [taken_phase, acceptsClientData_established hdata.accepts]
      rfl
    unfold readTunTcpServerEventAfterClientPayload
    rw [hdata.session]
    refine ensures_readThen hpos' hrun' hph ?_
    intro resp close s''
    exact ⟨_, hstep _ _, rfl⟩
  · intro error s' hpos'
    have hrun' := FlowRun.step hrun (.wrote hctl hdata hfin (.error error))
    exact ⟨_, _, _, _, hpos', .run hrun', rfl⟩

theorem ensures_clientPayloadBlock (hkey : fromFlow a.segment.flow = .ok key)
    (hfin : a.segment.flags.fin = false) (hctl : control = .start ∨ control = .opened)
    (hrun : FlowRun key a .start state₀ calls [] control state)
    (hpos : Position key table₀ log₀ calls state s)
    (hnext : ∀ s', Position key table₀ log₀ calls state s' →
      Ensures next s' (Refined key a table₀ state₀ log₀)) :
    Ensures (clientPayloadBlock relay.recording a.segment a.now next) s
      (Refined key a table₀ state₀ log₀) := by
  have hrunning : control.running = true := by rcases hctl with rfl | rfl <;> rfl
  unfold clientPayloadBlock
  refine ensures_onTable (acceptClientPayload_localized a hkey) hpos ?_ ?_ (refined_refused hrunning hrun)
  · rintro frame st' s' ⟨r, rfl, hdata, rfl⟩ hpos'
    exact ensures_clientPayloadStep hctl hrun hfin hdata hpos' fun _ _ => rfl
  intro _ s₁ hpos₁
  refine ensures_onTable (acceptOverlappingClientPayload_localized a hkey) hpos₁ ?_ ?_
    (refined_refused hrunning hrun)
  · rintro frame st' s' ⟨r, rfl, hdata, rfl⟩ hpos'
    exact ensures_clientPayloadStep hctl hrun hfin hdata hpos' fun _ _ => rfl
  intro _ s₂ hpos₂
  refine ensures_onTable (acknowledgeDuplicateClientPayload_localized a hkey) hpos₂ ?_ ?_
    (refined_refused hrunning hrun)
  · intro ack st' s' hstep hpos'
    exact refined_done hrun (hstep control hctl) hpos' rfl
  intro _ s₃ hpos₃
  refine ensures_onTable (acknowledgeOutOfOrderClientPayload_localized a hkey) hpos₃ ?_
    (fun _ => hnext) (refined_refused hrunning hrun)
  intro ack st' s' hstep hpos'
  exact refined_done hrun (hstep control hctl) hpos' rfl

theorem ensures_acknowledgmentBlock (hkey : fromFlow a.segment.flow = .ok key)
    (hpos : Position key table₀ log₀ [] state₀ s)
    (hnext : ∀ s', Position key table₀ log₀ [] state₀ s' →
      Ensures next s' (Refined key a table₀ state₀ log₀)) :
    Ensures (acknowledgmentBlock a.segment a.now next) s (Refined key a table₀ state₀ log₀) := by
  unfold acknowledgmentBlock
  refine ensures_firstOp (acknowledgeClientAck_localized a hkey) hpos ?_ fun s₁ hpos₁ => ?_
  · intro sess st' s' hstep hpos'
    exact refined_done (.refl .start state₀) (hstep .start (.inl rfl)) hpos' rfl
  refine ensures_firstOp (retransmitServerClose_localized a hkey) hpos₁ ?_ fun s₂ hpos₂ => ?_
  · intro response st' s' hstep hpos'
    exact refined_done (.refl .start state₀) hstep hpos' rfl
  refine ensures_firstOp (acknowledgeServerClose_localized a hkey) hpos₂ ?_ fun s₃ hpos₃ => ?_
  · intro sess st' s' hstep hpos'
    exact refined_done (.refl .start state₀) hstep hpos' rfl
  refine ensures_firstOp (acknowledgePostCloseAck_localized a hkey) hpos₃ ?_ hnext
  intro sess st' s' hstep hpos'
  exact refined_done (.refl .start state₀) hstep hpos' rfl

/-- The facts about the segment and the session that a poll rests on. -/
structure Polls (a : Arrival) (r : TunTcpSessionRecord) : Prop where
  ack : isPureAck a.segment = true
  phase : tunTcpPhaseAcceptsServerResponse r.phase = true
  sequence : a.segment.sequenceNumber = r.clientNextSequenceNumber
  acknowledgment : a.segment.acknowledgmentNumber = r.serverNextSequenceNumber

theorem Polls.known {a : Arrival} (h : Polls a r) :
    tcpSegmentAcknowledgesKnownServerSequence a.segment r = true := by
  unfold tcpSegmentAcknowledgesKnownServerSequence
  rw [h.acknowledgment]
  exact SeqNum.between_right _ _

section

variable (hkey : TunTcpSessionKey.fromFlow a.segment.flow = .ok key)

include hkey

theorem ensures_ackAfterPoll (hpolls : Polls a r)
    (hrun : FlowRun key a .start state₀ calls [] .polled (.active r))
    (hpos : Position key table₀ log₀ calls (.active r) s) :
    Ensures (acknowledgmentBlock a.segment a.now next) s (Refined key a table₀ state₀ log₀) := by
  unfold acknowledgmentBlock
  refine ensures_onTable (acknowledgeClientAck_localized a hkey) hpos ?_ ?_ (refined_refused rfl hrun)
  · intro sess st' s' hstep hpos'
    exact refined_done hrun (hstep .polled (.inr rfl)) hpos' rfl
  · intro hnone
    have hsess : s.1.sessions.lookup key = some r := hpos.at_key.session
    simp [acknowledgeClientAck, hpolls.ack, withSession, hkey, hsess, hpolls.phase,
      hpolls.sequence, hpolls.known] at hnone

theorem ensures_pollStep (hpolls : Polls a r)
    (hrun : FlowRun key a .start state₀ [] [] .polling (.active r))
    (hpos : Position key table₀ log₀ [] (.active r) s) :
    Ensures (pollStep relay.recording a.now (acknowledgmentBlock a.segment a.now next) r) s
      (Refined key a table₀ state₀ log₀) := by
  have hwf : r.WellFormed key := hpos.inv.wellFormed hpos.at_key
  refine ensures_call hpos ?_ ?_
  · intro read s' hpos'
    cases read with
    | noPayload =>
      have hrun' := FlowRun.step hrun (.readNothing hpolls.phase .poll (.inl rfl))
      exact ⟨_, _, _, _, hpos', .run hrun', rfl⟩
    | payload data =>
      have hsend := sendServerPayload_spec hpos'.inv hpos'.at_key hwf.fromFlow hpolls.phase data
        a.now
      refine ensures_ifLet (ensures_onTable_raw hsend) ?_ ?_ ?_
      · rintro response s'' ⟨res', table', hres', rfl, hcases⟩
        rcases hcases with ⟨rfl, rfl, rfl⟩ | ⟨_, _, rfl, _⟩ | ⟨packet, hne, hpkt, rfl, hu, hwf'⟩
        · cases hres'
        · cases hres'
        · cases hres'
          have hrun' := FlowRun.step hrun (.sent hpolls.phase .poll hne hpkt)
          exact ⟨_, _, _, _, hpos'.move hu hwf', .run hrun', rfl⟩
      · rintro s'' ⟨res', table', hres', rfl, hcases⟩
        rcases hcases with ⟨rfl, rfl, rfl⟩ | ⟨_, _, rfl, _⟩ | ⟨packet, hne, hpkt, rfl, hu, hwf'⟩
        · have hrun' := FlowRun.step hrun (.readNothing hpolls.phase .poll (.inr rfl))
          exact ensures_ackAfterPoll hkey hpolls hrun' hpos'
        · cases hres'
        · cases hres'
      · rintro error s'' ⟨res', table', hres', rfl, hcases⟩
        rcases hcases with ⟨rfl, rfl, rfl⟩ | ⟨hsize, error', rfl, rfl⟩ | ⟨_, _, _, rfl, _, _⟩
        · cases hres'
        · cases hres'
          have hrun' := FlowRun.step hrun (.oversized hpolls.phase .poll hsize)
          exact ⟨_, _, _, _, hpos', .run hrun', .inr rfl⟩
        · cases hres'
    | closed =>
      refine ensures_ifLet (ensures_closeFromServer hpos' hpolls.phase) ?_ ?_ ?_
      · rintro response s'' ⟨packet, res, hpkt, hpos'', houtcome⟩
        have hrun' := FlowRun.step hrun (.closedByServer hpolls.phase .poll hpkt res)
        cases res with
        | ok _ =>
          cases houtcome
          exact ⟨_, _, _, _, hpos'', .run hrun', rfl⟩
        | error error => cases houtcome
      · rintro s'' ⟨packet, res, hpkt, hpos'', houtcome⟩
        cases res with
        | ok _ => cases houtcome
        | error error => cases houtcome
      · rintro error s'' ⟨packet, res, hpkt, hpos'', houtcome⟩
        have hrun' := FlowRun.step hrun (.closedByServer hpolls.phase .poll hpkt res)
        cases res with
        | ok _ => cases houtcome
        | error error =>
          cases houtcome
          exact ⟨_, _, _, _, hpos'', .run hrun', rfl⟩
  · intro error s' hpos'
    have hrun' := FlowRun.step hrun (.readFailed hpolls.phase error .poll)
    exact ⟨_, _, _, _, hpos', .run hrun', rfl⟩

theorem ensures_serverPayloadBlock (hpos : Position key table₀ log₀ [] state₀ s)
    (hnext : ∀ s', Position key table₀ log₀ [] state₀ s' →
      Ensures next s' (Refined key a table₀ state₀ log₀)) :
    Ensures (serverPayloadBlock relay.recording a.segment a.now next) s
      (Refined key a table₀ state₀ log₀) := by
  unfold serverPayloadBlock
  refine ensures_firstOp (retransmitServerPayload_localized a hkey) hpos ?_ fun s₁ hpos₁ => ?_
  · intro response st' s' hstep hpos'
    exact refined_done (.refl .start state₀) hstep hpos' rfl
  refine ensures_firstOp (serverPayloadPollSession_localized a hkey) hpos₁ ?_ fun s₂ hpos₂ => ?_
  · rintro sess st' s' ⟨hstep, rfl, hack, hph, hseq, hackn⟩ hpos'
    exact ensures_pollStep hkey ⟨hack, hph, hseq, hackn⟩ (.single hstep) hpos'
  exact ensures_acknowledgmentBlock hkey hpos₂ hnext

theorem ensures_processOpenSegment (hfin : a.segment.flags.fin = false)
    (hpos : Position key table₀ log₀ [] state₀ s) :
    Ensures (processOpenSegment relay.recording a.segment a.relayPlan a.now) s
      (Refined key a table₀ state₀ log₀) := by
  refine ensures_bind (ensures_establishBlock hkey hpos) ?_ (fun _ _ h => h)
  intro established s' hest
  cases established with
  | none =>
    refine ensures_clientPayloadBlock hkey hfin (.inl rfl) (.refl .start state₀) hest
      fun s₁ hpos₁ => ?_
    refine ensures_serverPayloadBlock hkey hpos₁ fun s₂ hpos₂ => ?_
    unfold resetUnknownBlock
    split
    · exact ensures_getFlow hkey hpos₂ (fun _ _ => ensures_noop hpos₂) (ensures_resetStep hpos₂)
    · exact ensures_noop hpos₂
  | some sess =>
    obtain ⟨calls, hpos', hrun⟩ := hest
    refine ensures_clientPayloadBlock hkey hfin (.inr rfl) hrun hpos' fun s₁ hpos₁ => ?_
    exact ⟨_, _, _, _, hpos₁, .run hrun, rfl⟩

end

theorem process_refines (relay : TunTcpSessionRelay ρ) (hkey : fromFlow a.segment.flow = .ok key)
    (hpos : Position key table₀ log₀ [] state₀ s) :
    Ensures (processTunTcpSessionSegmentWithRelayPlan relay.recording a.segment a.relayPlan a.now
      a.serverInitialSequenceNumber a.windowSize) s (Refined key a table₀ state₀ log₀) := by
  unfold processTunTcpSessionSegmentWithRelayPlan
  split
  · exact ensures_processClosingSegment hkey hpos
  next hflags =>
    have hfin : a.segment.flags.fin = false := by
      rw [not_or] at hflags
      simpa using hflags.2
    split
    next hsyn => exact ensures_processInitialSyn hkey hpos hsyn hfin
    · exact ensures_processOpenSegment hkey hfin hpos

end

end KeliNative.Tun
