import KeliNative.Tun.RegistryRelay
import KeliNative.Tun.Runs
import KeliNative.Tun.Script

/-!
# Open connections belong to sessions

A connection is opened by a successful connect and gone after a close.
-/

namespace KeliNative.Tun
open TunTcpSessionTable Route

def RelayEvent.connects (key : TunTcpSessionKey) (connected : Bool) (event : RelayEvent) : Bool :=
  if event.key = key then
    match event with
    | .establish _ _ (.ok _) => true
    | .close _ _ => false
    | _ => connected
  else connected

def connectedAfter (key : TunTcpSessionKey) (connected : Bool) (calls : List RelayEvent) : Bool :=
  calls.foldl (RelayEvent.connects key) connected

theorem connectedAfter_append (key : TunTcpSessionKey) (connected : Bool)
    (calls calls' : List RelayEvent) : connectedAfter key connected (calls ++ calls') =
      connectedAfter key (connectedAfter key connected calls) calls' := List.foldl_append

theorem connectedAfter_filter (key : TunTcpSessionKey) (connected : Bool) (calls : List RelayEvent) :
    connectedAfter key connected (calls.filter fun event => decide (event.key = key)) =
      connectedAfter key connected calls := by
  induction calls generalizing connected with
  | nil => rfl
  | cons event calls ih =>
    by_cases hkey : event.key = key
    · rw [List.filter_cons_of_pos (by simp [hkey])]
      exact ih _
    · rw [List.filter_cons_of_neg (by simp [hkey]), ih]
      simp only [connectedAfter, List.foldl_cons, RelayEvent.connects, hkey, ite_false]

section

variable {ω κ α : Type}

def Tracks (start : TunTcpSessionKey → Bool) (s : RegistryRelayState ω κ × List RelayEvent) : Prop :=
  ∀ key, key ∈ s.1.sessions → connectedAfter key (start key) s.2 = true

variable {event : Except String α → RelayEvent} {key : TunTcpSessionKey}
  {call : RegistryRelayState ω κ → Except String α × RegistryRelayState ω κ}
  {state : RegistryRelayState ω κ}

theorem tracks_record {start : TunTcpSessionKey → Bool}
    (hcall : ∀ state key, key ∈ (call state).2.sessions →
      (∀ connected, (event (call state).1).connects key connected = true) ∨
      key ∈ state.sessions ∧
        ∀ connected, (event (call state).1).connects key connected = connected)
    (s : RegistryRelayState ω κ × List RelayEvent) (h : Tracks start s) :
    Tracks start (record event call s).2 := by
  intro key hmem
  obtain ⟨state, log⟩ := s
  show connectedAfter key (start key) (log ++ [event (call state).1]) = true
  rw [connectedAfter_append]
  rcases hcall state key hmem with hopens | ⟨hopen, hkept⟩
  · exact hopens _
  · exact (hkept _).trans (h key hopen)

theorem tracks_other {start : TunTcpSessionKey → Bool}
    (hev : ∀ res key connected, (event res).connects key connected = connected)
    (hcall : ∀ state key, key ∈ (call state).2.sessions → key ∈ state.sessions)
    (s : RegistryRelayState ω κ × List RelayEvent) (h : Tracks start s) :
    Tracks start (record event call s).2 :=
  tracks_record (fun state key hmem => .inr ⟨hcall state key hmem, hev _ key⟩) s h

variable (outbounds : Outbounds ω κ) (text : DebugText) (timeout : Duration) (readBufferSize : ℕ)

theorem mem_closeKey {key' : TunTcpSessionKey} (h : key' ∈ (closeKey outbounds key state).sessions)
    : key' ∈ state.sessions ∧ key' ≠ key := by
  unfold closeKey at h
  split at h
  next hnone =>
    refine ⟨h, ?_⟩
    rintro rfl
    exact AList.lookup_eq_none.mp hnone h
  · exact ⟨(AList.mem_erase.mp h).2, (AList.mem_erase.mp h).1⟩

theorem mem_readAttempts {key' : TunTcpSessionKey} {deadline : Option Instant} {bufferSize : ℕ}
    {sessions : KeyMap TunTcpSessionKey κ} {attempt : ReadAttempt ω}
    (h : key' ∈ (readAttempts outbounds key deadline bufferSize sessions attempt).2.sessions) :
    key' ∈ sessions := by
  induction attempt with
  | received bytes world =>
    simp only [readAttempts] at h
    split at h
    · exact (mem_closeKey outbounds h).1
    · exact h
  | interrupted rest ih => exact ih h
  | notReady now world rest ih =>
    simp only [readAttempts] at h
    split at h
    · exact h
    · split at h
      · exact h
      · exact ih h
  | failed => exact h

theorem mem_readServerEventUntil {sess : TunTcpSessionRecord} {deadline : Option Instant}
    (h : key ∈ (readServerEventUntil outbounds readBufferSize sess deadline state).2.sessions) :
    key ∈ state.sessions := by
  simp only [readServerEventUntil] at h
  split at h
  · exact h
  · exact mem_readAttempts outbounds h

theorem mem_bind {β : Type} {prog : Program (RegistryRelayState ω κ) String α}
    {next : α → Program (RegistryRelayState ω κ) String β}
    (hfirst : key ∈ (prog state).2.sessions → key ∈ state.sessions)
    (hnext : ∀ a state', key ∈ (next a state').2.sessions → key ∈ state'.sessions)
    (h : key ∈ (Program.bind prog next state).2.sessions) : key ∈ state.sessions := by
  unfold Program.bind at h
  split at h
  next a state' hrun =>
    rw [hrun] at hfirst
    exact hfirst (hnext a state' h)
  next error state' hrun =>
    rw [hrun] at hfirst
    exact hfirst h

theorem registryRelay_tracks (start : TunTcpSessionKey → Bool) :
    (registryTunTcpSessionRelay outbounds text timeout readBufferSize).recording.Preserves
      (Tracks start) where
  establish plan sess s h := by
    rw [recording_establish]
    refine tracks_record ?_ s h
    intro state key hmem
    cases plan with
    | none =>
      exact .inr ⟨hmem, fun connected => ite_self _⟩
    | some plan =>
      simp only [TunTcpSessionRelay.establish, registryTunTcpSessionRelay] at hmem ⊢
      split at hmem
      next error world hconnect =>
        refine .inr ⟨(mem_closeKey outbounds hmem).1, fun connected => ?_⟩
        simp only [RelayEvent.connects, ite_self]
      next conn world hconnect =>
        by_cases heq : sess.key = key
        · refine .inl fun connected => ?_
          simp only [RelayEvent.connects, RelayEvent.key, heq, ite_true]
        · rw [AList.mem_insert] at hmem
          obtain ⟨hopen, _⟩ := mem_closeKey outbounds (hmem.resolve_left (Ne.symm heq))
          refine .inr ⟨hopen, fun connected => ?_⟩
          simp only [RelayEvent.connects, RelayEvent.key, heq, ite_false]
  write frame := by
    refine tracks_other (fun _ _ _ => by simp only [RelayEvent.connects, ite_self]) ?_
    intro state key hmem
    simp only [registryTunTcpSessionRelay] at hmem
    split at hmem
    · exact hmem
    · exact mem_bind id (fun _ _ => id) hmem
  shutdown sess := by
    refine tracks_other (fun _ _ _ => by simp only [RelayEvent.connects, ite_self]) ?_
    intro state key hmem
    simp only [registryTunTcpSessionRelay] at hmem
    split at hmem
    · exact hmem
    · exact hmem
  read sess := by
    refine tracks_other (fun _ _ _ => by simp only [RelayEvent.connects, ite_self]) ?_
    intro state key hmem
    have hmem' := mem_readServerEventUntil outbounds readBufferSize hmem
    exact hmem'
  poll sess := by
    refine tracks_other (fun _ _ _ => by simp only [RelayEvent.connects, ite_self]) ?_
    exact fun state key hmem => mem_readServerEventUntil outbounds readBufferSize hmem
  close sess := by
    refine tracks_record fun state key hmem => ?_
    obtain ⟨hopen, hne⟩ := mem_closeKey outbounds hmem
    refine .inr ⟨hopen, fun connected => ?_⟩
    simp only [RelayEvent.connects, RelayEvent.key, hne.symm, ite_false]

end

def FlowState.Connected (connected : Bool) (state : FlowState) : Prop :=
  connected = true → ∃ r, state = .active r ∧ tunTcpPhaseAcceptsServerResponse r.phase = true

section

variable {key : TunTcpSessionKey} {a : Arrival} {control c' : Control}
  {state state' : FlowState} {calls : List RelayEvent} {packets : List Bytes} {connected : Bool}

variable {r : TunTcpSessionRecord}

theorem connected_active (connected : Bool) (h : tunTcpPhaseAcceptsServerResponse r.phase = true) :
    (FlowState.active r).Connected connected := fun _ => ⟨r, rfl, h⟩

theorem connected_false : state.Connected false := fun h => nomatch h

theorem connectedAfter_close (hr : r.key = key) (connected : Bool) (calls : List RelayEvent)
    (res : Except String Unit) :
    connectedAfter key connected (calls ++ [.close r res]) = false := by
  rw [connectedAfter_append]
  simp only [connectedAfter, List.foldl_cons, List.foldl_nil, RelayEvent.connects, RelayEvent.key, hr,
    ite_true]

theorem connected_closed (hr : r.key = key) (connected : Bool) (calls : List RelayEvent)
    (res : Except String Unit) :
    state.Connected (connectedAfter key connected (calls ++ [.close r res])) := by
  rw [connectedAfter_close hr]
  exact connected_false

theorem FlowStep.keeps_connected (step : FlowStep key a control state calls packets c' state')
    (hkeyed : state.Keyed key) (h : state.Connected connected) :
    state'.Connected (connectedAfter key connected calls) := by
  cases step with
  | opened | finTaken => exact connected_active _ rfl
  | wrote _ hdata =>
    refine connected_active _ ?_
    rw [taken_phase, acceptsClientData_established hdata.accepts]
    rfl
  | ackedData _ hdata =>
    refine connected_active _ ?_
    rw [acknowledged_phase, acceptsClientData_established hdata]
    rfl
  | retransmitted hph | readFailed hph | readNothing hph | oversized hph | sent hph =>
    exact connected_active _ hph
  | polled _ hph | clientAcked _ _ hph =>
    refine connected_active _ ?_
    rw [acknowledged_phase]
    exact hph
  | finAgain _ hph =>
    refine connected_active _ ?_
    rw [acknowledged_phase, hph]
    rfl
  | @closedByServer _ r event => exact connected_closed (hkeyed r rfl) connected [event] _
  | removedByFin | removedByRst => exact connected_closed (hkeyed _ rfl) connected [] _
  | synAckAgain | touched =>
    intro hconn
    obtain ⟨r, hr, hph⟩ := h hconn
    cases hr
    exact ⟨_, rfl, hph⟩
  | reset => exact h
  | markerReset hmarker =>
    intro hconn
    obtain ⟨r, rfl, _⟩ := h hconn
    cases hmarker
  | _ =>
    intro hconn
    obtain ⟨r, hr, _⟩ := h hconn
    cases hr

theorem FlowRun.keeps_connected (run : FlowRun key a control state calls packets c' state')
    (hkeyed : state.Keyed key) (h : state.Connected connected) :
    state'.Connected (connectedAfter key connected calls) := by
  induction run with
  | refl => exact h
  | step run step ih =>
    rw [connectedAfter_append]
    exact step.keeps_connected (run.keyed hkeyed).2 (ih hkeyed h)

theorem moves_connected {entry : Entry} (hwf : state.WellFormed key)
    (hmoves : Moves key entry state state') (h : state.Connected connected) :
    state'.Connected (connectedAfter key connected (entry.callsOf key)) := by
  cases hmoves with
  | starts hstarts =>
    rw [hstarts.calls]
    intro hconn
    obtain ⟨r, hr, hph⟩ := h hconn
    rw [(hstarts.new r hr).1] at hph
    cases hph
  | continues hcont =>
    cases hcont with
    | idle hcalls =>
      rw [hcalls]
      exact h
    | run _ _ hrun => exact hrun.keeps_connected hwf.keyed h
    | pruned hcalls =>
      rw [hcalls]
      exact connected_closed (hwf.keyed _ rfl) connected [] _
    | expired hmarker hcalls =>
      rw [hcalls]
      intro hconn
      obtain ⟨r, rfl, _⟩ := h hconn
      cases hmarker

end

section

variable {ω κ : Type} (outbounds : Outbounds ω κ) (text : DebugText) (timeout : Duration)
  (readBufferSize : ℕ)

theorem react_tracks (e : Execution (RegistryRelayState ω κ)) (hinv : e.table.Inv) (input : Input) :
    let relay := registryTunTcpSessionRelay outbounds text timeout readBufferSize
    Tracks (fun key => decide (key ∈ e.relayState.sessions))
      ((e.react relay input).2, (e.react relay input).1.calls) := by
  intro relay
  have hrelay := registryRelay_tracks outbounds text timeout readBufferSize
    fun key => decide (key ∈ e.relayState.sessions)
  have hboth : Both e.table.maxActiveSessions (Tracks fun key => decide (key ∈ e.relayState.sessions))
      (e.table, e.relayState, []) := ⟨⟨hinv, rfl⟩, fun _ hmem => decide_eq_true hmem⟩
  cases input with
  | segment a => exact (preserves_process hrelay a _ hboth).2
  | prune now idleTimeout =>
    exact (pruneIdleTunTcpSessions_preserves hrelay now idleTimeout _ hboth).2

theorem execute_connected (limit : ℕ) (world : ω) (inputs : List Input) :
    let e := execute (registryTunTcpSessionRelay outbounds text timeout readBufferSize)
      limit ⟨∅, world⟩ inputs
    ∀ key, key ∈ e.relayState.sessions → ∃ r, e.table.sessions.lookup key = some r ∧
      tunTcpPhaseAcceptsServerResponse r.phase = true := by
  induction inputs using List.reverseRecOn with
  | nil => exact fun key hmem => absurd hmem (AList.notMem_empty key)
  | append_singleton inputs input ih =>
    rw [execute_append]
    have hinv : (execute (registryTunTcpSessionRelay outbounds text timeout readBufferSize)
      limit ⟨∅, world⟩ inputs).table.Inv := execute_inv inputs
    generalize execute (registryTunTcpSessionRelay outbounds text timeout readBufferSize)
      limit ⟨∅, world⟩ inputs = e at *
    intro _ key hmem
    have htrk := react_tracks outbounds text timeout readBufferSize e hinv input key hmem
    obtain ⟨state, hat, hwf⟩ := hinv.flows key
    obtain ⟨state', hat', hmoves⟩ := react_moves
      (registryTunTcpSessionRelay outbounds text timeout readBufferSize) hinv hat input
    have hbef : state.Connected (decide (key ∈ e.relayState.sessions)) := by
      intro hconn
      obtain ⟨r, hr, hph⟩ := ih key (of_decide_eq_true hconn)
      exact ⟨r, FlowState.session_eq_some.mp (hat.session.symm.trans hr), hph⟩
    have hafter := moves_connected hwf hmoves hbef
    rw [Entry.callsOf, connectedAfter_filter] at hafter
    obtain ⟨r, rfl, hph⟩ := hafter htrk
    exact ⟨r, hat'.session, hph⟩

/-- Every open connection belongs to a session in the table that is past its handshake. -/
theorem no_orphan_connections (maxActiveSessions : ℕ) (world : ω) (inputs : List Input) :
    let e := execute (registryTunTcpSessionRelay outbounds text timeout readBufferSize)
      maxActiveSessions ⟨∅, world⟩ inputs
    (∀ key, key ∈ e.relayState.sessions → ∃ r, e.table.sessions.lookup key = some r ∧
      (r.phase = .established ∨ r.phase = .clientFinReceived)) ∧
    e.relayState.sessions.keys.length ≤ e.table.len ∧ e.table.len ≤ max maxActiveSessions 1 := by
  intro e
  have hsound : e.table.Sound (max maxActiveSessions 1) := execute_sound inputs
  have hsesss : ∀ key, key ∈ e.relayState.sessions → ∃ r,
      e.table.sessions.lookup key = some r ∧ tunTcpPhaseAcceptsServerResponse r.phase = true :=
    execute_connected outbounds text timeout readBufferSize maxActiveSessions world inputs
  refine ⟨fun key hmem => ?_, ?_, hsound.limit_eq ▸ hsound.inv.limit⟩
  · obtain ⟨r, hr, hph⟩ := hsesss key hmem
    refine ⟨r, hr, ?_⟩
    cases hr' : r.phase with
    | synReceived =>
      rw [hr'] at hph
      cases hph
    | established => exact .inl rfl
    | clientFinReceived => exact .inr rfl
  · have hsubset : e.relayState.sessions.keys ⊆ e.table.sessions.keys := by
      intro key hmem
      obtain ⟨r, hr, _⟩ := hsesss key (AList.mem_keys.mpr hmem)
      exact AList.mem_keys.mp (AList.lookup_isSome.mp (by rw [hr]; rfl))
    exact (List.subperm_of_subset e.relayState.sessions.keys_nodup hsubset).length_le

end

/-- Connections that always succeed and never have anything to read; the world is what was
written to them. -/
def sinkOutbounds : Outbounds Bytes Unit where
  connectDirect _ _ := Program.pure ()
  connectOutbound _ _ _ := Program.pure ()
  setNonblockingMode _ := Program.pure ()
  writeAll _ payload := fun written => (.ok (), written ++ payload)
  flush _ := Program.pure ()
  read _ _ written := .notReady 0 written (.failed "closed" written)
  shutdownWrite _ := Program.pure ()
  shutdownBoth _ := Program.pure ()
  drop _ := id
  clock written := (0, written)

def directPlan : TunPacketRelayPlan :=
  ⟨⟨clientFlow, .direct, none, false⟩, .directTcp ⟨"192.0.2.1", 443⟩⟩

def plannedClient : List Input :=
  [clientSegment 100 0 0x0002 [], clientSegment 101 8 0x0010 [], clientSegment 101 8 0x0018 [1]].map
    fun segment => .segment { Arrival.ofClient 7 segment with relayPlan := some directPlan }

theorem no_orphan_connections_planned :
    let e := execute (registryTunTcpSessionRelay sinkOutbounds ⟨fun _ => "", fun _ => ""⟩ 0 16384) 4
      ⟨∅, []⟩ plannedClient
    e.relayState.sessions.keys = [clientKey] ∧ e.relayState.world = [1] ∧
    (∃ r, e.table.sessions.lookup clientKey = some r ∧
      (r.phase = .established ∨ r.phase = .clientFinReceived)) := by
  have hkeys : (execute (registryTunTcpSessionRelay sinkOutbounds ⟨fun _ => "", fun _ => ""⟩ 0 16384) 4
      ⟨∅, []⟩ plannedClient).relayState.sessions.keys = [clientKey] := by decide
  refine ⟨hkeys, by decide, ?_⟩
  refine (no_orphan_connections sinkOutbounds ⟨fun _ => "", fun _ => ""⟩ 0 16384 4 [] plannedClient).1
    clientKey (AList.mem_keys.mpr ?_)
  rw [hkeys]
  exact List.mem_singleton_self _

end KeliNative.Tun
