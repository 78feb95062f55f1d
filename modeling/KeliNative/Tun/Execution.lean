import KeliNative.Lib.Epoch
import KeliNative.Tun.FlowFacts
import KeliNative.Tun.Refine
import KeliNative.Tun.StepInvariant

/-!
# Executions

Segments and prunes are fed to one table and one relay, and a trace is kept.
-/

namespace KeliNative.Tun
open TunTcpSessionTable Program List TunTcpSessionKey

inductive Input where
  | segment (arrival : Arrival)
  | prune (now : Instant) (idleTimeout : Duration)

/-- What one input did: the relay calls in order and, for a segment, the step's result. -/
structure Entry where
  input : Input
  before : TunTcpSessionTable
  calls : List RelayEvent
  result : Option (Except TunTcpSessionError TunTcpSessionStep)
  after : TunTcpSessionTable

structure Execution (ρ : Type) where
  trace : List Entry
  table : TunTcpSessionTable
  relayState : ρ

section

variable {ρ : Type} (relay : TunTcpSessionRelay ρ)

def Execution.react (e : Execution ρ) : Input → Entry × ρ
  | .segment a =>
    let (result, table, relayState, calls) :=
      processTunTcpSessionSegmentWithRelayPlan relay.recording a.segment a.relayPlan a.now
        a.serverInitialSequenceNumber a.windowSize (e.table, e.relayState, [])
    (⟨.segment a, e.table, calls, some result, table⟩, relayState)
  | .prune now idleTimeout =>
    let (_, table, relayState, calls) :=
      pruneIdleTunTcpSessions relay.recording now idleTimeout (e.table, e.relayState, [])
    (⟨.prune now idleTimeout, e.table, calls, none, table⟩, relayState)

def Execution.advance (e : Execution ρ) (input : Input) : Execution ρ :=
  let (entry, relayState) := e.react relay input
  ⟨e.trace ++ [entry], entry.after, relayState⟩

variable (e : Execution ρ)

@[simp] theorem Execution.react_input (input : Input) : (e.react relay input).1.input = input := by
  cases input <;> rfl

@[simp] theorem Execution.react_before (input : Input) :
    (e.react relay input).1.before = e.table := by
  cases input <;> rfl

theorem Execution.advance_trace (input : Input) :
    (e.advance relay input).trace = e.trace ++ [(e.react relay input).1] := rfl

theorem Execution.advance_table (input : Input) :
    (e.advance relay input).table = (e.react relay input).1.after := rfl

/-- The run over `inputs` from an empty table for `maxActiveSessions` sessions. -/
def execute (maxActiveSessions : ℕ) (relayState : ρ) (inputs : List Input) : Execution ρ :=
  inputs.foldl (Execution.advance relay) ⟨[], withMaxActiveSessions maxActiveSessions, relayState⟩

end

namespace Entry

variable (key : TunTcpSessionKey) (entry : Entry)

def callsOf : List RelayEvent := entry.calls.filter fun event => decide (event.key = key)

def emitted : List Bytes :=
  match entry.result with
  | some (.ok step) => step.responsePackets
  | _ => []

/-- The packets written to the device for `key`: those of a successful step on its flow. -/
def packetsOf : List Bytes :=
  match entry.input, entry.result with
  | .segment a, some (.ok step) =>
    match TunTcpSessionKey.fromFlow a.segment.flow with
    | .ok key' => if key' = key then step.responsePackets else []
    | .error _ => []
  | _, _ => []

def opens : Bool :=
  match entry.after.sessions.lookup key with
  | none => false
  | some r => r.phase == .synReceived &&
    match entry.before.sessions.lookup key with
    | none => true
    | some old => !(old.phase == .synReceived &&
        old.clientInitialSequenceNumber == r.clientInitialSequenceNumber)

variable {key} {entry} {a : Arrival}

theorem packetsOf_ok {step : TunTcpSessionStep} (hin : entry.input = .segment a)
    (hkey : fromFlow a.segment.flow = .ok key)
    (hres : entry.result = some (.ok step)) : entry.packetsOf key = step.responsePackets := by
  simp only [packetsOf, hin, hres, hkey, ite_true]

theorem packetsOf_error {error : TunTcpSessionError} (hres : entry.result = some (.error error)) :
    entry.packetsOf key = [] := by
  unfold packetsOf
  rw [hres]
  cases entry.input <;> rfl

theorem packetsOf_other (hin : entry.input = .segment a)
    (hkey : fromFlow a.segment.flow ≠ .ok key) : entry.packetsOf key = [] := by
  unfold packetsOf
  rw [hin]
  split
  next hin' _ =>
    cases hin'
    split
    next key' hkey' =>
      refine if_neg fun heq => hkey ?_
      rw [hkey', heq]
    · rfl
  · rfl

theorem packetsOf_prune {now : Instant} {idle : Duration}
    (hin : entry.input = .prune now idle) : entry.packetsOf key = [] := by
  unfold packetsOf
  rw [hin]

end Entry

/-- The entries since the `SYN` that created the current incarnation of `key`. -/
def incarnation (key : TunTcpSessionKey) (trace : List Entry) : List Entry :=
  epoch (Entry.opens key) trace

def callsOf (key : TunTcpSessionKey) (entries : List Entry) : List RelayEvent :=
  entries.flatMap (Entry.callsOf key)

def packetsOf (key : TunTcpSessionKey) (entries : List Entry) : List Bytes :=
  entries.flatMap (Entry.packetsOf key)

def segmentsOf (key : TunTcpSessionKey) (entries : List Entry) : List TunTcpSegment :=
  (packetsOf key entries).filterMap fun packet => (parseTunTcpSegment packet).toOption

theorem callsOf_append (key : TunTcpSessionKey) (entries : List Entry) (entry : Entry) :
    callsOf key (entries ++ [entry]) = callsOf key entries ++ entry.callsOf key := by
  simp only [callsOf, flatMap_append, flatMap_cons, flatMap_nil, append_nil]

theorem packetsOf_append (key : TunTcpSessionKey) (entries : List Entry) (entry : Entry) :
    packetsOf key (entries ++ [entry]) = packetsOf key entries ++ entry.packetsOf key := by
  simp only [packetsOf, flatMap_append, flatMap_cons, flatMap_nil, append_nil]

def Emits (key : TunTcpSessionKey) (entry : Entry) (control : Control) (packets : List Bytes) : Prop :=
  entry.packetsOf key = packets ∨ entry.packetsOf key = [] ∧ control ≠ .done

inductive Continues (key : TunTcpSessionKey) (entry : Entry) : FlowState → FlowState → Prop where
  | idle {state : FlowState} (hcalls : entry.callsOf key = []) (hpkts : entry.packetsOf key = []) :
      Continues key entry state state
  | run {a : Arrival} {control : Control} {state state' : FlowState} {packets : List Bytes}
      (hin : entry.input = .segment a)
      (hkey : TunTcpSessionKey.fromFlow a.segment.flow = .ok key)
      (hrun : FlowRun key a .start state (entry.callsOf key) packets control state')
      (hemits : Emits key entry control packets) : Continues key entry state state'
  | pruned {r : TunTcpSessionRecord} {result : Except String Unit}
      (hcalls : entry.callsOf key = [.close r result]) (hpkts : entry.packetsOf key = []) :
      Continues key entry (.active r) .absent
  | expired {state : FlowState} (hmarker : state.session = none)
      (hcalls : entry.callsOf key = []) (hpkts : entry.packetsOf key = []) :
      Continues key entry state .absent

structure Starts (key : TunTcpSessionKey) (a : Arrival) (entry : Entry) (state : FlowState) : Prop where
  input : entry.input = .segment a
  key_eq : TunTcpSessionKey.fromFlow a.segment.flow = .ok key
  syn : isInitialTcpSynSegment a.segment = true
  fin : a.segment.flags.fin = false
  new : ∀ r, state = .active r → r.phase = .synReceived ∧
    a.segment.sequenceNumber ≠ r.clientInitialSequenceNumber
  calls : entry.callsOf key = []
  packets : ∃ packet, entry.packetsOf key = [packet] ∧
    buildTunTcpSynAckResponsePacket a.segment a.serverInitialSequenceNumber a.windowSize = .ok packet

inductive Moves (key : TunTcpSessionKey) (entry : Entry) (state : FlowState) : FlowState → Prop where
  | continues {state' : FlowState} (h : Continues key entry state state') :
      Moves key entry state state'
  | starts {a : Arrival} (h : Starts key a entry state) :
      Moves key entry state (.active (a.newSession key))

section

variable {ρ : Type}

def Closes (session : TunTcpSessionRecord) (event : RelayEvent) : Prop :=
  ∃ result, event = .close session result

theorem closePrunedSessions_log (relay : TunTcpSessionRelay ρ) (sessions : List TunTcpSessionRecord)
    (report : TunTcpSessionPruneReport) (s : ρ × List RelayEvent) :
    ∃ evs, (closePrunedSessions relay.recording sessions report s).2.2 = s.2 ++ evs ∧
      List.Forall₂ Closes sessions evs := by
  induction sessions generalizing report s with
  | nil => exact ⟨[], (append_nil _).symm, .nil⟩
  | cons sess rest ih =>
    obtain ⟨init, log⟩ := s
    rcases hclose : relay.closeSession sess init with ⟨res, relayState'⟩
    have hrec : relay.recording.closeSession sess (init, log) =
        (res, relayState', log ++ [.close sess res]) := by
      simp only [TunTcpSessionRelay.recording, record, hclose]
    have hrest : ∃ report', closePrunedSessions relay.recording (sess :: rest) report
        (init, log) = closePrunedSessions relay.recording rest report'
          (relayState', log ++ [.close sess res]) := by
      simp only [closePrunedSessions, hrec]
      cases res with
      | ok _ => exact ⟨_, rfl⟩
      | error _ => exact ⟨_, rfl⟩
    obtain ⟨report', hrest⟩ := hrest
    obtain ⟨evs, hlog, hevs⟩ := ih report' (relayState', log ++ [.close sess res])
    refine ⟨.close sess res :: evs, ?_, .cons ⟨res, rfl⟩ hevs⟩
    rw [hrest, hlog, append_assoc, singleton_append]

theorem closes_of_key {sessions : KeyMap TunTcpSessionKey TunTcpSessionRecord}
    (hkeyed : ∀ key r, sessions.lookup key = some r → r.key = key) (key : TunTcpSessionKey)
    {keys : List TunTcpSessionKey} (hnodup : keys.Nodup) {evs : List RelayEvent}
    (hevs : List.Forall₂ Closes (keys.filterMap sessions.lookup) evs) :
    (key ∉ keys → evs.filter (fun ev => decide (ev.key = key)) = []) ∧
    ∀ r, key ∈ keys → sessions.lookup key = some r → ∃ res,
      evs.filter (fun ev => decide (ev.key = key)) = [.close r res] := by
  induction keys generalizing evs with
  | nil =>
    cases hevs
    exact ⟨fun _ => rfl, fun r hmem => absurd hmem not_mem_nil⟩
  | cons first keys ih =>
    obtain ⟨hfirst, hnodup⟩ := nodup_cons.mp hnodup
    cases hlook : sessions.lookup first with
    | none =>
      simp only [filterMap_cons, hlook] at hevs
      obtain ⟨hnone, hsome⟩ := ih hnodup hevs
      refine ⟨fun hmem => hnone fun h => hmem (mem_cons_of_mem _ h), fun r hmem hr => ?_⟩
      rcases mem_cons.mp hmem with rfl | hmem
      · rw [hlook] at hr
        cases hr
      · exact hsome r hmem hr
    | some r₀ =>
      simp only [filterMap_cons, hlook] at hevs
      cases hevs with
      | cons hclose hevs =>
        obtain ⟨res, rfl⟩ := hclose
        obtain ⟨hnone, hsome⟩ := ih hnodup hevs
        have hkey : (RelayEvent.close r₀ res).key = first := hkeyed first r₀ hlook
        by_cases heq : first = key
        · subst heq
          refine ⟨fun hmem => absurd mem_cons_self hmem, fun r _ hr => ?_⟩
          rw [hlook] at hr
          cases hr
          exact ⟨res, by rw [filter_cons_of_pos (by simp [hkey]), hnone hfirst]⟩
        · rw [filter_cons_of_neg (by simp [hkey, heq])]
          refine ⟨fun hmem => hnone fun h => hmem (mem_cons_of_mem _ h), fun r hmem hr => ?_⟩
          exact hsome r ((mem_cons.mp hmem).resolve_left (Ne.symm heq)) hr

end

theorem react_sound {ρ : Type} (relay : TunTcpSessionRelay ρ) {e : Execution ρ} {limit : ℕ}
    (h : e.table.Sound limit) (input : Input) : (e.react relay input).1.after.Sound limit := by
  have htrue := preserves_true relay.recording
  have hboth : Both limit (fun _ : ρ × List RelayEvent => True) (e.table, e.relayState, []) :=
    ⟨h, trivial⟩
  cases input with
  | segment a => exact (preserves_process htrue a _ hboth).1
  | prune now idleTimeout =>
    exact (pruneIdleTunTcpSessions_preserves htrue now idleTimeout _ hboth).1

section

variable {ρ : Type} (relay : TunTcpSessionRelay ρ) {e : Execution ρ} (hinv : e.table.Inv)
  {key : TunTcpSessionKey} {state : FlowState} (hat : e.table.At key state)

include hinv

include hat

theorem position_start : Position key e.table [] [] state (e.table, e.relayState, []) :=
  ⟨hinv, .refl hinv hat, rfl⟩

theorem react_segment_same (a : Arrival) (hkey : fromFlow a.segment.flow = .ok key) :
    ∃ st', (e.react relay (.segment a)).1.after.At key st' ∧
      Moves key (e.react relay (.segment a)).1 state st' := by
  obtain ⟨ctl, st', calls, pkts, hpos, heffect, hreports⟩ :=
    process_refines relay hkey (position_start hinv hat)
  refine ⟨st', hpos.at_key, ?_⟩
  have hlog : (e.react relay (.segment a)).1.calls = calls := hpos.log
  have hemits : Emits key (e.react relay (.segment a)).1 ctl pkts := by
    cases hres : (processTunTcpSessionSegmentWithRelayPlan relay.recording a.segment a.relayPlan
        a.now a.serverInitialSequenceNumber a.windowSize (e.table, e.relayState, [])).1 with
    | ok step =>
      rw [hres] at hreports
      exact .inl ((Entry.packetsOf_ok rfl hkey (congrArg some hres)).trans hreports)
    | error error =>
      rw [hres] at hreports
      refine .inr ⟨Entry.packetsOf_error (congrArg some hres), ?_⟩
      rintro rfl
      cases error <;> simp [Reports, Control.running] at hreports
  cases heffect with
  | run hrun =>
    have hcalls : (e.react relay (.segment a)).1.callsOf key = calls := by
      rw [Entry.callsOf, hlog, filter_eq_self]
      exact fun ev hev => decide_eq_true ((hrun.keyed (hinv.wellFormed hat).keyed).1 ev hev)
    exact .continues (.run rfl hkey (hcalls ▸ hrun) hemits)
  | started hsyn hfin hnew hpkt =>
    refine .starts ⟨rfl, hkey, hsyn, hfin, hnew, ?_, _, ?_, hpkt⟩
    · rw [Entry.callsOf, hlog, filter_nil]
    · exact hemits.resolve_right fun h => h.2 rfl

theorem react_segment_frame (a : Arrival) (hkey : fromFlow a.segment.flow ≠ .ok key) :
    (e.react relay (.segment a)).1.after.At key state ∧
      (e.react relay (.segment a)).1.callsOf key = [] := by
  cases hother : fromFlow a.segment.flow with
  | error error =>
    have hstill := (still_process relay.recording a hother (e.table, e.relayState, [])).1
    have hafter : (e.react relay (.segment a)).1.after = e.table := congrArg Prod.fst hstill
    have hcalls : (e.react relay (.segment a)).1.calls = [] := congrArg (·.2.2) hstill
    refine ⟨hafter ▸ hat, ?_⟩
    rw [Entry.callsOf, hcalls, filter_nil]
  | ok other =>
    have hne : key ≠ other := fun heq => hkey (heq ▸ hother)
    obtain ⟨state₁, hat₁, hwf₁⟩ := hinv.flows other
    obtain ⟨ctl, st', calls, pkts, hpos, heffect, _⟩ :=
      process_refines relay hother (position_start hinv hat₁)
    refine ⟨hpos.updated.others key hne state hat, ?_⟩
    have hlog : (e.react relay (.segment a)).1.calls = calls := hpos.log
    rw [Entry.callsOf, hlog, filter_eq_nil_iff]
    intro ev hev
    have hevent_key : ev.key = other := by
      cases heffect with
      | run hrun => exact (hrun.keyed hwf₁.keyed).1 ev hev
      | started => cases hev
    simp [hevent_key, hne.symm]

theorem react_segment_other (a : Arrival) (hkey : fromFlow a.segment.flow ≠ .ok key) :
    ∃ st', (e.react relay (.segment a)).1.after.At key st' ∧
      Moves key (e.react relay (.segment a)).1 state st' := by
  obtain ⟨hafter, hcalls⟩ := react_segment_frame relay hinv hat a hkey
  exact ⟨state, hafter, .continues (.idle hcalls (Entry.packetsOf_other rfl hkey))⟩

omit hat in
theorem prune_callsOf (now : Instant) (idle : Duration) (key : TunTcpSessionKey) :
    (∀ r, e.table.sessions.lookup key = some r → idleFor now idle r.lastActivityAt = true →
      ∃ res, (e.react relay (.prune now idle)).1.callsOf key = [.close r res]) ∧
    ((∀ r, e.table.sessions.lookup key = some r → idleFor now idle r.lastActivityAt = false) →
      (e.react relay (.prune now idle)).1.callsOf key = []) := by
  have hkeyed : ∀ key' r, e.table.sessions.lookup key' = some r → r.key = key' := by
    intro key' r hr
    obtain ⟨st', hat', hwf⟩ := hinv.flows key'
    exact hwf.keyed r (FlowState.session_eq_some.mp (hat'.session.symm.trans hr))
  obtain ⟨evs, hlog, hevs⟩ := closePrunedSessions_log relay
    (pruneIdle now idle e.table).1 _ (e.relayState, [])
  have hvalues : (pruneIdle now idle e.table).1 = _ :=
    KeyMap.takeKeys_values _ e.table.sessions (KeyMap.keysWhere_nodup _ _)
  rw [hvalues] at hevs
  obtain ⟨hnone, hsome⟩ := closes_of_key hkeyed key (KeyMap.keysWhere_nodup _ _) hevs
  have hcalls : (e.react relay (.prune now idle)).1.calls = evs := hlog
  rw [Entry.callsOf, hcalls]
  constructor
  · intro r hr hidle
    exact hsome r (KeyMap.mem_keysWhere.mpr ⟨r, hr, hidle⟩) hr
  · intro hbusy
    refine hnone fun hmem => ?_
    obtain ⟨r, hr, hidle⟩ := KeyMap.mem_keysWhere.mp hmem
    rw [hbusy r hr] at hidle
    cases hidle

theorem react_prune (now : Instant) (idle : Duration) :
    ∃ st', (e.react relay (.prune now idle)).1.after.At key st' ∧
      Moves key (e.react relay (.prune now idle)).1 state st' := by
  refine ⟨_, pruneIdle_at hat now idle, .continues ?_⟩
  obtain ⟨hidle, hbusy⟩ := prune_callsOf relay hinv now idle key
  have hpkts : (e.react relay (.prune now idle)).1.packetsOf key = [] :=
    Entry.packetsOf_prune (Execution.react_input relay e (.prune now idle))
  rw [hat.session] at hidle hbusy
  cases state with
  | absent => exact .idle (hbusy (by simp)) hpkts
  | active r =>
    by_cases hr : idleFor now idle r.lastActivityAt = true
    · obtain ⟨res, hcalls⟩ := hidle r rfl hr
      simp only [FlowState.pruned, hr, ite_true]
      exact .pruned hcalls hpkts
    · simp only [FlowState.pruned, hr, Bool.false_eq_true, ite_false]
      exact .idle (hbusy (by simpa using hr)) hpkts
  | serverClosed c =>
    simp only [FlowState.pruned]
    split
    · exact .expired rfl (hbusy (by simp)) hpkts
    · exact .idle (hbusy (by simp)) hpkts
  | postClosed p =>
    simp only [FlowState.pruned]
    split
    · exact .expired rfl (hbusy (by simp)) hpkts
    · exact .idle (hbusy (by simp)) hpkts

theorem react_moves (input : Input) : ∃ st', (e.react relay input).1.after.At key st' ∧
    Moves key (e.react relay input).1 state st' := by
  cases input with
  | segment a =>
    by_cases hkey : fromFlow a.segment.flow = .ok key
    · exact react_segment_same relay hinv hat a hkey
    · exact react_segment_other relay hinv hat a hkey
  | prune now idleTimeout => exact react_prune relay hinv hat now idleTimeout

end

end KeliNative.Tun
