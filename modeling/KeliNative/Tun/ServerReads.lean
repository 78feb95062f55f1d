import KeliNative.Tun.Runs

/-!
# What a step reads from the server

A step reads from the server at most once.
-/

namespace KeliNative.Tun
open TunTcpSessionTable List

def RelayEvent.serverRead : RelayEvent → Option (Except String TunTcpServerRead)
  | .read _ result | .poll _ result => some result
  | _ => none

def RelayEvent.chunk (event : RelayEvent) : Option Bytes :=
  match event.serverRead with
  | some (.ok (.payload payload)) => if payload = [] then none else some payload
  | _ => none

def serverChunks (calls : List RelayEvent) : List Bytes := calls.filterMap RelayEvent.chunk

def serverStream (calls : List RelayEvent) : Bytes := (serverChunks calls).flatten

def CloseReported (calls : List RelayEvent) : Prop :=
  ∃ event ∈ calls, event.serverRead = some (.ok .closed)

def RelayEvent.fits : RelayEvent → Bool
  | .read session (.ok (.payload payload)) | .poll session (.ok (.payload payload)) =>
    decide (payload.length ≤ maxTcpPayloadLen session.flow.ipVersion)
  | _ => true

def PayloadsFit (calls : List RelayEvent) : Prop := ∀ event ∈ calls, event.fits = true

instance (calls : List RelayEvent) : Decidable (PayloadsFit calls) :=
  inferInstanceAs (Decidable (∀ event ∈ calls, event.fits = true))

theorem serverChunks_append (calls calls' : List RelayEvent) :
    serverChunks (calls ++ calls') = serverChunks calls ++ serverChunks calls' :=
  filterMap_append

theorem serverStream_append (calls calls' : List RelayEvent) :
    serverStream (calls ++ calls') = serverStream calls ++ serverStream calls' := by
  rw [serverStream, serverChunks_append, flatten_append, serverStream, serverStream]

variable {r : TunTcpSessionRecord} {calls : List RelayEvent}

theorem serverStream_of_chunks (h : serverChunks calls = []) : serverStream calls = [] := by
  rw [serverStream, h, flatten_nil]

theorem CloseReported.append (h : CloseReported calls) (calls' : List RelayEvent) :
    CloseReported (calls ++ calls') := by
  obtain ⟨ev, hmem, hread⟩ := h
  exact ⟨ev, mem_append_left _ hmem, hread⟩

theorem PayloadsFit.of_append {calls' : List RelayEvent} (h : PayloadsFit (calls ++ calls')) :
    PayloadsFit calls ∧ PayloadsFit calls' :=
  ⟨fun ev hmem => h ev (mem_append_left _ hmem),
    fun ev hmem => h ev (mem_append_right _ hmem)⟩

theorem serverChunks_readCall {control : Control} {ev : RelayEvent}
    {res : Except String TunTcpServerRead} (h : ReadCall r res control ev)
    (hres : ∀ data, res = .ok (.payload data) → data = []) (calls : List RelayEvent) :
    serverChunks (ev :: calls) = serverChunks calls := by
  have hchunk : ev.chunk = none := by
    cases h <;> cases res with
    | error _ => rfl
    | ok read =>
      cases read with
      | payload data => simp [RelayEvent.chunk, RelayEvent.serverRead, hres data rfl]
      | _ => rfl
  rw [serverChunks, filterMap_cons, hchunk]
  rfl

theorem serverChunks_payload {control : Control} {ev : RelayEvent} {data : Bytes}
    (h : ReadCall r (.ok (.payload data)) control ev) (hpay : data ≠ []) :
    serverChunks [ev] = [data] := by
  cases h <;> simp [serverChunks, RelayEvent.chunk, RelayEvent.serverRead, hpay]

theorem serverChunks_finCalls {a : Arrival} {pkt : Bytes} {res : Except String Unit}
    (h : a.FinCalls r pkt calls res) : serverChunks calls = [] := by
  cases h <;> rfl

def parsedSegments (packets : List Bytes) : List TunTcpSegment :=
  packets.filterMap fun packet => (parseTunTcpSegment packet).toOption

theorem parsedSegments_append (packets packets' : List Bytes) :
    parsedSegments (packets ++ packets') = parsedSegments packets ++ parsedSegments packets' :=
  filterMap_append

theorem mem_parsedSegments {packets : List Bytes} {seg : TunTcpSegment} :
    seg ∈ parsedSegments packets ↔
      ∃ pkt ∈ packets, parseTunTcpSegment pkt = .ok seg := by
  simp only [parsedSegments, mem_filterMap]
  refine exists_congr fun pkt => and_congr_right fun _ => ?_
  cases parseTunTcpSegment pkt <;> simp [Except.toOption]

theorem parsedSegments_length (packets : List Bytes) :
    (parsedSegments packets).length ≤ packets.length := length_filterMap_le _ _

theorem parse_of_build {flow : TunPacketFlow} {seq ack : UInt32}
    {flags : TunTcpFlags} {win : UInt16} {data pkt : Bytes} {seg : TunTcpSegment}
    (hbuild : buildTunTcpResponsePacket flow seq ack flags win
      data = .ok pkt) (hparse : parseTunTcpSegment pkt = .ok seg) :
    seg = ⟨flow.reversed, seq, ack, 20, flags, win, data⟩ := by
  rw [parse_buildTunTcpResponsePacket _ _ _ _ _ _ _ hbuild] at hparse
  exact (Except.ok.inj hparse).symm

def dataSegments (segments : List TunTcpSegment) : List TunTcpSegment :=
  segments.filter fun segment => decide (segment.payload ≠ [])

theorem dataSegments_append (packets packets' : List Bytes) :
    dataSegments (parsedSegments (packets ++ packets')) =
      dataSegments (parsedSegments packets) ++ dataSegments (parsedSegments packets') := by
  rw [parsedSegments_append, dataSegments, filter_append, dataSegments, dataSegments]

theorem dataSegments_payload {flow : TunPacketFlow} {seq ack : UInt32}
    {win : UInt16} {data pkt : Bytes}
    (hbuild : buildTunTcpPayloadResponsePacket flow seq ack win
      data = .ok pkt) (hpay : data ≠ []) :
    (dataSegments (parsedSegments [pkt])).map
      (fun seg => (seg.sequenceNumber, seg.payload)) = [(seq, data)] := by
  have hparse := parse_buildTunTcpResponsePacket _ _ _ _ _ _ _ hbuild
  simp [parsedSegments, dataSegments, hparse, Except.toOption, hpay]

/-- A session that sends nothing new: its server numbers stay, and its payload is dropped only
for the latest acknowledgment. -/
structure NumbersKept (a : Arrival) (r r' : TunTcpSessionRecord) : Prop where
  initial : r'.serverInitialSequenceNumber = r.serverInitialSequenceNumber
  next : r'.serverNextSequenceNumber = r.serverNextSequenceNumber
  unacked : r'.serverUnackedPayload = r.serverUnackedPayload ∨
    r'.serverUnackedPayload = none ∧ a.segment.flags.ack = true ∧
      a.segment.acknowledgmentNumber = r.serverNextSequenceNumber

theorem NumbersKept.refl (a : Arrival) (r : TunTcpSessionRecord) : NumbersKept a r r :=
  ⟨rfl, rfl, .inl rfl⟩

theorem NumbersKept.trans {a : Arrival} {r' r'' : TunTcpSessionRecord} (h : NumbersKept a r r')
    (h' : NumbersKept a r' r'') : NumbersKept a r r'' := by
  refine ⟨h'.initial.trans h.initial, h'.next.trans h.next, ?_⟩
  rcases h'.unacked with hkept | ⟨hnone, hack, hlatest⟩
  · rw [hkept]
    exact h.unacked
  · exact .inr ⟨hnone, hack, hlatest.trans h.next⟩

theorem numbersKept_clear {a : Arrival} {r' : TunTcpSessionRecord}
    (hack : a.segment.flags.ack = true)
    (hinitial : r'.serverInitialSequenceNumber = r.serverInitialSequenceNumber)
    (hnext : r'.serverNextSequenceNumber = r.serverNextSequenceNumber)
    (hunack : r'.serverUnackedPayload =
      (clearServerUnackedPayloadIfLatestAcknowledged a.segment r).serverUnackedPayload) :
    NumbersKept a r r' := by
  refine ⟨hinitial, hnext, ?_⟩
  rw [hunack, clear_unacked]
  split
  next hlatest => exact .inr ⟨rfl, hack, hlatest⟩
  · exact .inl rfl

structure Sends (a : Arrival) (r : TunTcpSessionRecord) (payload : Bytes) (calls : List RelayEvent)
    (packets : List Bytes) (control' : Control) (state' : FlowState) : Prop where
  state : state' = .active (r.sent payload a.now)
  payload_ne : payload ≠ []
  chunks : serverChunks calls = [payload]
  control : control' = .done
  packets : ∃ packet, packets = [packet] ∧ buildTunTcpPayloadResponsePacket r.flow
    r.serverNextSequenceNumber r.clientNextSequenceNumber r.windowSize payload = .ok packet

section

variable {key : TunTcpSessionKey} {a : Arrival} {control control' : Control}
  {state state' : FlowState} {calls : List RelayEvent} {packets : List Bytes}

theorem FlowStep.sends_or_keeps {r' : TunTcpSessionRecord}
    (step : FlowStep key a control state calls packets control' (.active r')) :
    ∃ r, state = .active r ∧ ((∃ data, Sends a r data calls packets control' (.active r')) ∨
      NumbersKept a r r') := by
  cases step with
  | reset hunk => cases hunk
  | sent _ hcall hpay hbuild =>
    exact ⟨_, rfl, .inl ⟨_, rfl, hpay, serverChunks_payload hcall hpay, rfl, _, rfl, hbuild⟩⟩
  | wrote _ hdata =>
    exact ⟨_, rfl, .inr (numbersKept_clear (acceptsClientData_iff.mp hdata.accepts).2.2.1
      (clear_serverInitial ..) (clear_serverNext ..) rfl)⟩
  | ackedData _ hacpt =>
    exact ⟨_, rfl, .inr (numbersKept_clear (acceptsClientData_iff.mp hacpt).2.2.1
      (clear_serverInitial ..) (clear_serverNext ..) rfl)⟩
  | polled hack | clientAcked _ hack =>
    exact ⟨_, rfl, .inr (numbersKept_clear (isPureAck_iff.mp hack).1 (clear_serverInitial ..)
      (clear_serverNext ..) rfl)⟩
  | finAgain hfin | finTaken hfin =>
    exact ⟨_, rfl, .inr (numbersKept_clear (isClientFin_iff.mp hfin).1 (clear_serverInitial ..)
      (clear_serverNext ..) rfl)⟩
  | _ => exact ⟨_, rfl, .inr ⟨rfl, rfl, .inl rfl⟩⟩

theorem FlowStep.chunks (step : FlowStep key a control state calls packets control' state') :
    serverChunks calls = [] ∨ (∃ r data, state = .active r ∧
      Sends a r data calls packets control' state') ∨
    control' = .refused ∧ ¬PayloadsFit calls := by
  cases step with
  | finTaken _ _ _ hcalls => exact .inl (serverChunks_finCalls hcalls)
  | readFailed _ _ hcall => exact .inl (serverChunks_readCall hcall (by simp) [])
  | readNothing _ hcall hread =>
    refine .inl (serverChunks_readCall hcall ?_ [])
    rintro data ⟨⟩
    simpa using hread
  | @oversized _ r ev data _ hcall hsize =>
    refine .inr (.inr ⟨rfl, fun hfit => ?_⟩)
    have hle : data.length ≤ maxTcpPayloadLen r.flow.ipVersion := by
      have hfits := hfit ev mem_cons_self
      cases hcall <;> exact of_decide_eq_true hfits
    omega
  | sent _ hcall hpay hbuild =>
    exact .inr (.inl ⟨_, _, rfl, rfl, hpay, serverChunks_payload hcall hpay, rfl, _, rfl,
      hbuild⟩)
  | closedByServer _ hcall => exact .inl (serverChunks_readCall hcall (by simp) _)
  | _ => exact .inl rfl

theorem FlowStep.serverClosed {c' : TunTcpServerClosedSession}
    (step : FlowStep key a control state calls packets control' (.serverClosed c')) :
    (∃ r, state = .active r ∧ c'.response.sequenceNumber = r.serverNextSequenceNumber ∧
      serverChunks calls = [] ∧ CloseReported calls) ∨
    ∃ c, state = .serverClosed c ∧ c'.response = c.response := by
  cases step with
  | @closedByServer _ r ev _ _ hcall _ res =>
    have hread : ev.serverRead = some (.ok .closed) := by cases hcall <;> rfl
    have hchs := serverChunks_readCall hcall (by simp) [.close r res]
    exact .inl ⟨r, rfl, rfl, hchs, ev, mem_cons_self, hread⟩
  | closeRetransmitted => exact .inr ⟨_, rfl, rfl⟩
  | reset => exact .inr ⟨_, rfl, rfl⟩

section

variable (step : FlowStep key a control state calls packets control' state')

include step

theorem FlowStep.packets_length : packets.length ≤ 1 := by
  cases step with
  | wrote _ _ _ res | closedByServer _ _ _ res | removedByFin _ _ _ _ res
  | @finTaken _ _ _ res => cases res <;> simp [emitAfter]
  | _ => simp

theorem FlowStep.not_ended : control ≠ .done ∧ control ≠ .refused := by
  cases step with
  | touched h => cases control <;> simp_all [Control.running]
  | wrote h | ackedData h | clientAcked h => rcases h with rfl | rfl <;> simp
  | readFailed _ _ h | readNothing _ h | oversized _ h | sent _ h | closedByServer _ h =>
    cases h <;> simp
  | _ => simp

theorem FlowStep.dataSegments_of_running (hctl : control' ≠ .done) :
    dataSegments (parsedSegments packets) = [] := by
  rw [dataSegments, filter_eq_nil_iff]
  intro seg hmem
  obtain ⟨pkt, hpkt, hparse⟩ := mem_parsedSegments.mp hmem
  have hack : ∀ flow seq ack win,
      buildTunTcpAckResponsePacket flow seq ack win = .ok pkt →
      ¬decide (seg.payload ≠ []) = true := by
    intro flow seq ack win hbuild
    obtain rfl := parse_of_build hbuild hparse
    simp
  cases step with
  | wrote _ hdata =>
    obtain rfl := mem_emitAfter hpkt
    exact hack _ _ _ _ hdata.packet
  | finAgain _ _ _ _ hbuild =>
    obtain rfl := mem_singleton.mp hpkt
    exact hack _ _ _ _ hbuild
  | finTaken _ _ hbuild =>
    obtain rfl := mem_emitAfter hpkt
    exact hack _ _ _ _ hbuild
  | removedByFin _ _ _ hbuild =>
    obtain rfl := mem_emitAfter hpkt
    exact hack _ _ _ _ hbuild
  | closedByServer _ _ hbuild =>
    obtain rfl := mem_emitAfter hpkt
    obtain rfl := parse_of_build hbuild hparse
    simp
  | synAckAgain | ackedData | retransmitted | sent | closeAckedWithFin | closeRetransmitted
  | postFinAgain | postFin | reset => exact absurd rfl hctl
  | _ => cases hpkt

end

/-- What a run read and sent: nothing it sent is fresh, or its last transition sent what it read. -/
inductive Fresh (a : Arrival) (state : FlowState) (calls : List RelayEvent) (packets : List Bytes)
    (control : Control) (state' : FlowState) : Prop where
  | nothing (hchs : serverChunks calls = [] ∨ control = .refused ∧ ¬PayloadsFit calls)
      (hdata : control ≠ .done → dataSegments (parsedSegments packets) = [])
      (hkept : ∀ r', state' = .active r' → ∃ r, state = .active r ∧ NumbersKept a r r')
  | sent {r r₁ : TunTcpSessionRecord} (payload : Bytes) (hst : state = .active r)
      (hkept : NumbersKept a r r₁) (hst' : state' = .active (r₁.sent payload a.now))
      (hpay : payload ≠ []) (hctl : control = .done) (hchs : serverChunks calls = [payload])
      (hdata : (dataSegments (parsedSegments packets)).map (fun segment =>
        (segment.sequenceNumber, segment.payload)) = [(r.serverNextSequenceNumber, payload)])

theorem FlowRun.fresh (run : FlowRun key a control state calls packets control' state') :
    Fresh a state calls packets control' state' := by
  induction run with
  | refl =>
    exact .nothing (.inl rfl) (fun _ => rfl) fun r' hr' => ⟨r', hr', .refl a r'⟩
  | step run step ih =>
    obtain ⟨hdone, href⟩ := step.not_ended
    cases ih with
    | sent _ _ _ _ _ hctl => exact absurd hctl hdone
    | nothing hchunks₁ hdata₁ hkept₁ =>
      have hchunks₁ := hchunks₁.resolve_right fun h => href h.1
      have hdata₁ := hdata₁ hdone
      rcases step.chunks with hchunks₂ | ⟨r₁, data, hst₁, hsends⟩ | ⟨hctl, hlarge⟩
      · refine .nothing (.inl ?_) (fun hctl => ?_) ?_
        · rw [serverChunks_append, hchunks₁, hchunks₂, append_nil]
        · rw [dataSegments_append, hdata₁, step.dataSegments_of_running hctl, append_nil]
        · rintro r' rfl
          obtain ⟨r₁, hst₁, ⟨data, hsends⟩ | hkept⟩ := step.sends_or_keeps
          · rw [hsends.chunks] at hchunks₂
            cases hchunks₂
          · obtain ⟨r, hr, hkept₁⟩ := hkept₁ r₁ hst₁
            exact ⟨r, hr, hkept₁.trans hkept⟩
      · obtain ⟨r, hr, hkept₁⟩ := hkept₁ r₁ hst₁
        obtain ⟨pkt, rfl, hbuild⟩ := hsends.packets
        refine .sent data hr hkept₁ hsends.state hsends.payload_ne hsends.control ?_ ?_
        · rw [serverChunks_append, hchunks₁, hsends.chunks, nil_append]
        · rw [dataSegments_append, hdata₁, nil_append,
            dataSegments_payload hbuild hsends.payload_ne, hkept₁.next]
      · refine .nothing (.inr ⟨hctl, fun hfit => hlarge hfit.of_append.2⟩) (fun hnot => ?_) ?_
        · rw [dataSegments_append, hdata₁, step.dataSegments_of_running hnot, append_nil]
        · rintro r' rfl
          obtain ⟨r₁, hst₁, ⟨data, hsends⟩ | hkept⟩ := step.sends_or_keeps
          · rw [hsends.control] at hctl
            cases hctl
          · obtain ⟨r, hr, hkept₁⟩ := hkept₁ r₁ hst₁
            exact ⟨r, hr, hkept₁.trans hkept⟩

end

/-- The data packets of an entry that read from the server. A repeated payload comes from an
entry that read nothing. -/
def Entry.freshSegments (key : TunTcpSessionKey) (entry : Entry) : List TunTcpSegment :=
  if serverChunks (entry.callsOf key) = [] then []
  else dataSegments (parsedSegments (entry.packetsOf key))

def freshSegments (key : TunTcpSessionKey) (entries : List Entry) : List TunTcpSegment :=
  entries.flatMap (Entry.freshSegments key)


theorem segmentsOf_append (key : TunTcpSessionKey) (entries : List Entry) (entry : Entry) :
    segmentsOf key (entries ++ [entry]) =
      segmentsOf key entries ++ parsedSegments (entry.packetsOf key) := by
  rw [segmentsOf, packetsOf_append]
  exact parsedSegments_append _ _

theorem freshSegments_append (key : TunTcpSessionKey) (entries : List Entry) (entry : Entry) :
    freshSegments key (entries ++ [entry]) = freshSegments key entries ++ entry.freshSegments key := by
  simp only [freshSegments, flatMap_append, flatMap_cons, flatMap_nil, append_nil]

theorem freshSegments_nothing {key : TunTcpSessionKey} {entry : Entry} {control : Control}
    {packets : List Bytes}
    (hchs : serverChunks (entry.callsOf key) = [] ∨
      control = .refused ∧ ¬PayloadsFit (entry.callsOf key))
    (hdata : control ≠ .done → dataSegments (parsedSegments packets) = [])
    (hemits : Emits key entry control packets) : entry.freshSegments key = [] := by
  unfold Entry.freshSegments
  split
  · rfl
  next hread =>
    obtain ⟨rfl, _⟩ := hchs.resolve_left hread
    rcases hemits with hemits | ⟨hemits, _⟩
    · rw [hemits]
      exact hdata nofun
    · rw [hemits]
      rfl

end KeliNative.Tun
