import KeliNative.Tun.ClientStream

/-!
# Acknowledged client bytes

What is acknowledged was handed to the relay, apart from the payload of a late `FIN`.
-/

namespace KeliNative.Tun
open TunTcpSessionTable List FlowState SeqNum

def delivered (calls : List RelayEvent) : Bytes :=
  calls.flatMap fun
    | .write frame (.ok _) => frame.payload
    | _ => []

/-! ### What a table knows about the client's `FIN` -/

def FlowState.finAccepted : FlowState → Bool
  | .absent => false
  | .active r => r.phase == .clientFinReceived
  | .serverClosed c => c.response.session.phase == .clientFinReceived
  | .postClosed p => p.session.phase == .clientFinReceived || p.clientFinSequenceNumber.isSome

def TunTcpSessionTable.clientFinAccepted (table : TunTcpSessionTable) (key : TunTcpSessionKey) : Bool :=
  (table.sessions.lookup key).any (·.phase == .clientFinReceived) ||
  (table.serverClosedSessions.lookup key).any (·.response.session.phase == .clientFinReceived) ||
  (table.postClosedSessions.lookup key).any fun p =>
    p.session.phase == .clientFinReceived || p.clientFinSequenceNumber.isSome

def TunTcpSessionTable.recordedFin (table : TunTcpSessionTable) (key : TunTcpSessionKey) :
    Option UInt32 :=
  (table.postClosedSessions.lookup key).bind (·.clientFinSequenceNumber)

def FlowState.recordedFin : FlowState → Option UInt32
  | .postClosed p => p.clientFinSequenceNumber
  | _ => none

section

variable {table : TunTcpSessionTable} {key : TunTcpSessionKey} {state : FlowState}

theorem TunTcpSessionTable.At.clientFinAccepted (h : table.At key state) :
    table.clientFinAccepted key = state.finAccepted := by
  unfold TunTcpSessionTable.clientFinAccepted
  rw [h.session, h.closed, h.post]
  cases state <;> simp [finAccepted]

theorem TunTcpSessionTable.At.recordedFin (h : table.At key state) :
    table.recordedFin key = state.recordedFin := by
  unfold TunTcpSessionTable.recordedFin
  rw [h.post]
  cases state <;> rfl

end

def Entry.lateBytes (key : TunTcpSessionKey) (entry : Entry) : ℕ :=
  match entry.input with
  | .segment a =>
    if (entry.before.postClosedSessions.lookup key).isSome ∧ entry.before.recordedFin key = none ∧
        entry.after.recordedFin key ≠ none then a.segment.payload.length else 0
  | .prune _ _ => 0

def lateBytes (key : TunTcpSessionKey) (entries : List Entry) : ℕ :=
  (entries.map (Entry.lateBytes key)).sum

/-- An entry that does not acknowledge bytes nobody took. -/
structure Orderly (key : TunTcpSessionKey) (entry : Entry) : Prop where
  syn : ∀ a, entry.input = .segment a → TunTcpSessionKey.fromFlow a.segment.flow = .ok key →
    isInitialTcpSynSegment a.segment = true → entry.packetsOf key ≠ [] → a.segment.payload = []
  writes : ∀ frame result, .write frame result ∈ entry.callsOf key → result = .ok ()
  removal : ∀ a r, entry.input = .segment a → entry.before.sessions.lookup key = some r →
    entry.after.recordedFin key ≠ none →
    SeqNum.offset r.clientNextSequenceNumber (tcpSegmentNextSequenceNumber a.segment) ≤ 1
  once : entry.before.clientFinAccepted key = true → entry.before.recordedFin key = none →
    entry.after.recordedFin key = none

def Entry.isOrderly (key : TunTcpSessionKey) (entry : Entry) : Bool :=
  (match entry.input with
    | .segment a =>
      (!(decide (TunTcpSessionKey.fromFlow a.segment.flow = .ok key) &&
        isInitialTcpSynSegment a.segment) || (entry.packetsOf key).isEmpty ||
        a.segment.payload.isEmpty) &&
      ((entry.after.recordedFin key).isNone || (entry.before.sessions.lookup key).all fun r =>
        SeqNum.offset r.clientNextSequenceNumber (tcpSegmentNextSequenceNumber a.segment) ≤ 1)
    | .prune _ _ => true) &&
  ((entry.callsOf key).all fun
    | .write _ (.error _) => false
    | _ => true) &&
  (!entry.before.clientFinAccepted key || (entry.before.recordedFin key).isSome ||
    (entry.after.recordedFin key).isNone)

theorem Entry.orderly_of_isOrderly {key : TunTcpSessionKey} {entry : Entry}
    (h : entry.isOrderly key = true) : Orderly key entry := by
  simp only [Entry.isOrderly, Bool.and_eq_true, all_eq_true] at h
  obtain ⟨⟨hin, hcalls⟩, honce⟩ := h
  refine ⟨?_, ?_, ?_, ?_⟩
  · intro a ha hkey hsyn hans
    simp only [ha, Bool.and_eq_true] at hin
    simpa [hkey, hsyn, hans] using hin.1
  · intro frame res hmem
    have hwrite := hcalls _ hmem
    cases res with
    | ok _ => rfl
    | error _ => cases hwrite
  · intro a r ha hr hfin
    simp only [ha, hr, Bool.and_eq_true] at hin
    simpa [hfin] using hin.2
  · intro haccd hnone
    simpa [haccd, hnone] using honce

/-! ### Transitions -/

def lateBetween (a : Arrival) (state state' : FlowState) : ℕ :=
  if state.post.isSome ∧ state.recordedFin = none ∧ state'.recordedFin ≠ none then
    a.segment.payload.length
  else 0

/-- What is expected next is at most `n` bytes, and the accepted `FIN`, after `isn + 1`. -/
def FlowState.Acked (isn : UInt32) (n : ℕ) (state : FlowState) : Prop :=
  ∀ x, Expects state x → SeqNum.offset (isn + 1) x ≤ n + state.finAccepted.toNat

section

variable {isn : UInt32} {n : ℕ} {r r' : TunTcpSessionRecord} {a : Arrival} {key : TunTcpSessionKey}
  {control c' : Control} {state state' : FlowState} {calls : List RelayEvent}
  {packets : List Bytes}

theorem FlowState.Acked.mono (h : state.Acked isn n) {m : ℕ} (hle : n ≤ m) : state.Acked isn m :=
  fun x hx => le_trans (h x hx) (by omega)

theorem FlowState.Acked.kept (h : (active r).Acked isn n)
    (hnext : r'.clientNextSequenceNumber = r.clientNextSequenceNumber)
    (hph : r'.phase = r.phase) : (active r').Acked isn n := by
  rintro _ ⟨⟩
  have hbound := h _ (.active r)
  simp only [finAccepted] at hbound ⊢
  rw [hnext, hph]
  exact hbound

theorem fin_bound {seg : TunTcpSegment} {x : UInt32} (h : offset (isn + 1) x ≤ n)
    (hsyn : seg.flags.syn = false) (hfin : seg.flags.fin = true)
    (hseq : seg.sequenceNumber = x) :
    offset (isn + 1) (tcpSegmentNextSequenceNumber seg) ≤ n + seg.payload.length + 1 := by
  have hpay := offset_add_ofNat_le (isn + 1) x seg.payload.length
  have hlast := offset_add_ofNat_le (isn + 1) (x + UInt32.ofNat seg.payload.length) 1
  rw [next_of_fin hsyn hfin, hseq]
  exact le_trans hlast (by omega)

theorem takesData_next {frame : TunTcpClientPayloadFrame} (h : a.TakesData r frame)
    (hfin : a.segment.flags.fin = false) : tcpSegmentNextSequenceNumber a.segment =
      r.clientNextSequenceNumber + UInt32.ofNat frame.payload.length := by
  obtain ⟨_, _, _, hsyn, _⟩ := acceptsClientData_iff.mp h.accepts
  rw [next_of_plain hsyn hfin]
  have hbytes := h.bytes
  generalize frame.payload = bytes at hbytes ⊢
  cases hbytes with
  | inOrder hseq => rw [hseq]
  | overlap _ _ _ hfits =>
    rw [length_drop, UInt32.ofNat_sub hfits, UInt32.ofNat_toNat]
    grind

theorem acked_of_phase (h : (active r).Acked isn n) (hph : r.phase ≠ .clientFinReceived) :
    offset (isn + 1) r.clientNextSequenceNumber ≤ n := by
  have hbound := h _ (.active r)
  have hfin : (active r).finAccepted = false := by simp [finAccepted, hph]
  rwa [hfin, Bool.toNat_false, Nat.add_zero] at hbound

theorem FlowStep.acked (step : FlowStep key a control state calls packets c' state')
    (hpost : state'.post = none) (h : state.Acked isn n) :
    state'.Acked isn (n + (written calls).length) := by
  cases step with
  | synAckAgain | touched | retransmitted => exact h.kept rfl rfl
  | ackedData | polled | clientAcked | finAgain => exact h.kept (clear_clientNext ..) (clear_phase ..)
  | opened hopens =>
    rintro _ ⟨⟩
    have hbound := acked_of_phase h (by simp [hopens.phase])
    exact le_trans hbound (Nat.le_add_right _ _)
  | @wrote _ r frame _ hdata hfin =>
    rintro _ ⟨⟩
    obtain ⟨hph, _⟩ := acceptsClientData_iff.mp hdata.accepts
    have hbound := acked_of_phase h (by simp [hph])
    rw [written_write, written_nil, append_nil]
    have hnext := offset_add_ofNat_le (isn + 1) r.clientNextSequenceNumber
      frame.payload.length
    rw [← takesData_next hdata hfin] at hnext
    exact le_trans hnext (by omega)
  | finTaken hfin hacpt _ hcalls =>
    rintro _ ⟨⟩
    obtain ⟨hph, hseq, _⟩ := acceptsClientFin_iff.mp hacpt
    obtain ⟨_, hflag, hsyn, _⟩ := isClientFin_iff.mp hfin
    have hbound := acked_of_phase h (by simp [hph])
    rw [written_finCalls hcalls]
    have hnext := fin_bound hbound hsyn hflag hseq
    exact hnext
  | readFailed _ _ hcall | readNothing _ hcall | oversized _ hcall =>
    exact h.mono (Nat.le_add_right _ _)
  | @sent _ r _ data =>
    have hsent : (active (r.sent data a.now)).Acked isn n := h.kept rfl rfl
    exact hsent.mono (Nat.le_add_right _ _)
  | @closedByServer _ r =>
    rintro _ ⟨⟩
    exact le_trans (h _ (.active r)) (by simp only [finAccepted]; omega)
  | removedByRst | markerReset => rintro _ ⟨⟩
  | closeRetransmitted =>
    rintro _ ⟨⟩
    exact h _ (.serverClosed _)
  | reset => exact h
  | _ => cases hpost

theorem FlowStep.acked_post {p' : TunTcpPostCloseSession}
    (step : FlowStep key a control state calls packets c' (.postClosed p')) (h : state.Acked isn n)
    (hremoval : ∀ r, state = .active r → p'.clientFinSequenceNumber ≠ none →
      offset r.clientNextSequenceNumber (tcpSegmentNextSequenceNumber a.segment) ≤ 1)
    (honce : state.finAccepted = true → state.recordedFin = none →
      p'.clientFinSequenceNumber = none) :
    (postClosed p').Acked isn (n + lateBetween a state (.postClosed p')) := by
  cases step with
  | @removedByFin r _ hfin _ hmatch =>
    rintro _ ⟨⟩
    have hph : r.phase ≠ .clientFinReceived := by
      intro hph
      simp [tcpCloseSegmentMatchesSession, hph, hfin] at hmatch
    have hbound := acked_of_phase h hph
    have hnext := hremoval r rfl (by simp [Arrival.finMarker])
    have htriangle := offset_triangle (isn + 1) r.clientNextSequenceNumber
      (tcpSegmentNextSequenceNumber a.segment)
    simp only [Arrival.finMarker, finAccepted, Option.isSome_some, Bool.or_true,
      Bool.toNat_true]
    omega
  | @closeAckedWithFin c _ hfin hpay hacks =>
    rintro _ ⟨⟩
    obtain ⟨_, hflag, hsyn, _⟩ := isClientFin_iff.mp hfin
    have hfresh : (serverClosed c).finAccepted = false := by
      by_contra htrue
      cases honce (by simpa using htrue) rfl
    have hbound := h _ (.serverClosed c)
    rw [hfresh, Bool.toNat_false, Nat.add_zero] at hbound
    simp only [acknowledgesServerFin, Bool.and_eq_true, beq_iff_eq] at hacks
    have hnext := fin_bound hbound hsyn hflag hacks.1
    rw [hpay, length_nil, Nat.add_zero] at hnext
    simp only [Arrival.finMarker, finAccepted, Option.isSome_some, Bool.or_true,
      Bool.toNat_true]
    omega
  | @closeAcked c =>
    rintro _ ⟨⟩
    have hbound := h _ (.serverClosed c)
    simp only [finAccepted, Option.isSome_none, Bool.or_false] at hbound ⊢
    omega
  | @postFinAgain p | @postAcked p =>
    rintro _ ⟨⟩
    have hbound := h _ (.postClosed p)
    simp only [finAccepted] at hbound ⊢
    omega
  | @postFin p pkt hfin _ hfirst hseq =>
    rintro _ ⟨⟩
    obtain ⟨_, hflag, hsyn, _⟩ := isClientFin_iff.mp hfin
    have hfresh : (postClosed p).finAccepted = false := by
      by_contra htrue
      cases honce (by simpa using htrue) hfirst
    have hbound := h _ (.postClosed p)
    rw [hfresh, Bool.toNat_false, Nat.add_zero] at hbound
    have hnext := fin_bound hbound hsyn hflag hseq
    have hlate : lateBetween a (.postClosed p) (.postClosed (a.finMarker p.session
        p.serverNextSequenceNumber pkt)) = a.segment.payload.length :=
      if_pos ⟨rfl, hfirst, nofun⟩
    rw [hlate]
    simp only [Arrival.finMarker, finAccepted, Option.isSome_some, Bool.or_true,
      Bool.toNat_true]
    omega
  | reset => exact h.mono (Nat.le_add_right _ _)

/-! ### Runs of one step -/

theorem FlowStep.start_of_post (step : FlowStep key a control state calls packets c' state')
    (hpost : state.post ≠ none ∨ state'.post ≠ none) : control = .start := by
  by_contra hctl
  obtain ⟨r, rfl, ⟨r', rfl, _⟩ | ⟨c, rfl, _⟩⟩ := step.running hctl
  · simp at hpost
  · simp at hpost

theorem recordedFin_of_post (h : state.post = none) : state.recordedFin = none := by
  cases state <;> first | rfl | cases h

theorem lateBetween_of_post (h : state'.post = none) : lateBetween a state state' = 0 :=
  if_neg fun hlate => hlate.2.2 (recordedFin_of_post h)

theorem FlowRun.acked (run : FlowRun key a control state calls packets c' state')
    (hctl : control = .start) (h : state.Acked isn n)
    (hremoval : ∀ r, state = .active r → state'.recordedFin ≠ none →
      offset r.clientNextSequenceNumber (tcpSegmentNextSequenceNumber a.segment) ≤ 1)
    (honce : state.finAccepted = true → state.recordedFin = none → state'.recordedFin = none) :
    state'.Acked isn (n + (written calls).length + lateBetween a state state') := by
  induction run with
  | refl => exact h.mono (by omega)
  | @step control₁ control₂ _ state₁ state₂ calls₁ calls₂ packets₁ packets₂ run step ih =>
    subst hctl
    by_cases hstart : control₁ = .start
    · -- The step is the first one, so what is known of the whole run is known of it.
      subst hstart
      obtain ⟨rfl, rfl, rfl⟩ := run.start
      rw [nil_append]
      cases hpost : state₂.post with
      | none => exact (step.acked hpost h).mono (by omega)
      | some p' =>
        obtain rfl := post_eq_some.mp hpost
        exact (step.acked_post h hremoval honce).mono (by omega)
    · have hpost₁ : state₁.post = none := by
        by_contra hne
        exact hstart (step.start_of_post (.inl hne))
      have hpost₂ : state₂.post = none := by
        by_contra hne
        exact hstart (step.start_of_post (.inr hne))
      have hmid := ih h (fun _ _ hfin => absurd (recordedFin_of_post hpost₁) hfin)
        (fun _ _ => recordedFin_of_post hpost₁)
      rw [lateBetween_of_post hpost₁] at hmid
      rw [written_append, length_append]
      exact (step.acked hpost₂ hmid).mono (by omega)

/-! ### Packets -/

/-- The packet parses, and unless it is a reset it acknowledges at most `bound` after `isn + 1`. -/
def AckWithin (isn : UInt32) (bound : ℕ) (packet : Bytes) : Prop :=
  ∃ segment, parseTunTcpSegment packet = .ok segment ∧ (segment.flags.rst = false →
    (segment.acknowledgmentNumber - isn - 1).toNat ≤ bound)

theorem AckWithin.mono {bound bound' : ℕ} {pkt : Bytes} (h : AckWithin isn bound pkt)
    (hle : bound ≤ bound') : AckWithin isn bound' pkt := by
  obtain ⟨seg, hparse, hbound⟩ := h
  exact ⟨seg, hparse, fun hrst => le_trans (hbound hrst) hle⟩

theorem ackWithin_of_build {flow : TunPacketFlow} {seq ack : UInt32}
    {flags : TunTcpFlags} {win : UInt16} {data pkt : Bytes} {bound : ℕ}
    (hbuild : buildTunTcpResponsePacket flow seq ack flags win
      data = .ok pkt)
    (hbound : flags.rst = false → offset (isn + 1) ack ≤ bound) : AckWithin isn bound pkt := by
  refine ⟨_, parse_buildTunTcpResponsePacket _ _ _ _ _ _ _ hbuild, fun hrst => ?_⟩
  have hoff : ack - isn - 1 = ack - (isn + 1) := by grind
  rw [hoff]
  exact hbound hrst

theorem synAck_within {seg : TunTcpSegment} {isn : UInt32}
    {win : UInt16} {pkt : Bytes} (hfin : seg.flags.fin = false)
    (hpay : seg.payload = []) (bound : ℕ)
    (h : buildTunTcpSynAckResponsePacket seg isn win = .ok pkt) :
    AckWithin seg.sequenceNumber bound pkt := by
  obtain ⟨hsyn, hbuild⟩ := synAck_build h
  refine ackWithin_of_build hbuild fun _ => ?_
  have hflag : seg.flags.syn = true := by
    simp only [isInitialTcpSynSegment, Bool.and_eq_true] at hsyn
    exact hsyn.1.1
  have hnext : tcpSegmentNextSequenceNumber seg = seg.sequenceNumber + 1 := by
    simp [tcpSegmentNextSequenceNumber, tcpSegmentSequenceLen, hflag, hfin, hpay]
  rw [hnext, offset_self]
  exact Nat.zero_le _

theorem Answer.within {pkt : Bytes} (h : Answer a state state' pkt)
    (hinitial : ∀ r, state = .active r → r.clientInitialSequenceNumber = isn)
    (hsyn : isInitialTcpSynSegment a.segment = true → a.segment.payload = [])
    (hacked : state'.Acked isn n) : AckWithin isn (n + state'.finAccepted.toNat) pkt := by
  cases h with
  | reset hbuild => exact ackWithin_of_build hbuild fun hrst => by cases hrst
  | synAck hst hinit hfin hseq hbuild =>
    have hwithin := synAck_within hfin (hsyn hinit) (n + state'.finAccepted.toNat) hbuild
    rwa [hseq, hinitial _ hst] at hwithin
  | ack hexpects hbuild => exact ackWithin_of_build hbuild fun _ => hacked _ hexpects
  | again _ _ hexpects hbuild => exact ackWithin_of_build hbuild fun _ => hacked _ hexpects
  | data _ hst' _ hbuild =>
    subst hst'
    exact ackWithin_of_build hbuild fun _ => hacked _ (.active (TunTcpSessionRecord.sent ..))
  | fin hst' hbuild =>
    subst hst'
    exact ackWithin_of_build hbuild fun _ => hacked _ (.serverClosed _)

theorem FlowRun.ackWithin (run : FlowRun key a control state calls packets c' state')
    (hctl : control = .start) (hwf : state.WellFormed key)
    (hinitial : ∀ r, state = .active r → r.clientInitialSequenceNumber = isn)
    (hsyn : isInitialTcpSynSegment a.segment = true → a.segment.payload = [])
    (h : state.Acked isn n)
    (hremoval : ∀ r, state = .active r → state'.recordedFin ≠ none →
      offset r.clientNextSequenceNumber (tcpSegmentNextSequenceNumber a.segment) ≤ 1)
    (honce : state.finAccepted = true → state.recordedFin = none → state'.recordedFin = none) :
    ∀ pkt ∈ packets, AckWithin isn (n + (written calls).length + lateBetween a state state' +
      state'.finAccepted.toNat) pkt := by
  induction run with
  | refl => exact fun pkt hpkt => nomatch hpkt
  | @step control₁ control₂ _ state₁ state₂ calls₁ calls₂ packets₁ packets₂ run step ih =>
    have hacked := (FlowRun.step run step).acked hctl h hremoval honce
    have hinitial₁ : ∀ r, state₁ = .active r → r.clientInitialSequenceNumber = isn := by
      intro r hr
      obtain ⟨r₀, hr₀, heq⟩ := run.clientInitial r hr
      exact heq.trans (hinitial r₀ hr₀)
    intro pkt hpkt
    rcases mem_append.mp hpkt with hpkt | hpkt
    · by_cases hstart : control₁ = .start
      · subst hstart
        obtain ⟨_, rfl, _⟩ := run.start
        cases hpkt
      · -- An earlier packet of a step that goes on: the session is still there or just closed.
        have hpost₁ : state₁.post = none := by
          by_contra hne
          exact hstart (step.start_of_post (.inl hne))
        have hwithin := ih hwf hinitial h
          (fun _ _ hfin => absurd (recordedFin_of_post hpost₁) hfin)
          (fun _ _ => recordedFin_of_post hpost₁) pkt hpkt
        have hfin : state₁.finAccepted = state₂.finAccepted := by
          obtain ⟨r, rfl, ⟨r', rfl, hph⟩ | ⟨c, rfl, hsess⟩⟩ := step.running hstart
          · simp only [finAccepted, hph]
          · simp only [finAccepted, hsess]
        rw [lateBetween_of_post hpost₁, hfin] at hwithin
        rw [written_append, length_append]
        exact hwithin.mono (by omega)
    · exact (step.answers (run.wellFormed_start hwf) pkt hpkt).within hinitial₁ hsyn hacked

end

/-! ### Whole runs -/

theorem delivered_eq_written {calls : List RelayEvent}
    (h : ∀ frame res, .write frame res ∈ calls → res = .ok ()) :
    delivered calls = written calls := by
  refine flatMap_congr fun ev hev => ?_
  cases ev with
  | write frame res => rw [h frame res hev]
  | _ => rfl

theorem lateBytes_append (key : TunTcpSessionKey) (entries : List Entry) (entry : Entry) :
    lateBytes key (entries ++ [entry]) = lateBytes key entries + entry.lateBytes key := by
  simp [lateBytes]

section

variable {key : TunTcpSessionKey} {entry : Entry} {state state' : FlowState}
  (hbef : entry.before.At key state) (hafter : entry.after.At key state')

include hbef hafter

theorem lateBytes_segment {a : Arrival} (hin : entry.input = .segment a) :
    entry.lateBytes key = lateBetween a state state' := by
  simp only [Entry.lateBytes, hin, hbef.recordedFin, hafter.recordedFin, hbef.post,
    lateBetween]

end

/-- What holds of an incarnation, and of the packets of its last entry. -/
structure AckedSoFar (key : TunTcpSessionKey) (isn : UInt32) (state : FlowState)
    (entries : List Entry) : Prop where
  writes : ∀ frame result, .write frame result ∈ callsOf key entries → result = .ok ()
  initial : ∀ r, state = .active r → r.clientInitialSequenceNumber = isn
  acked : state.Acked isn ((written (callsOf key entries)).length + lateBytes key entries)
  packets : ∀ earlier entry, entries = earlier ++ [entry] → ∀ packet ∈ entry.packetsOf key,
    AckWithin isn ((written (callsOf key entries)).length + lateBytes key entries +
      (entry.after.clientFinAccepted key).toNat) packet

section

variable {key : TunTcpSessionKey} {a : Arrival} {isn : UInt32} {entry : Entry}
  {entries : List Entry} {state state' : FlowState}

theorem ackedSoFar_start (horderly : Orderly key entry) (h : Starts key a entry state) :
    AckedSoFar key a.segment.sequenceNumber (.active (a.newSession key)) [entry] := by
  obtain ⟨pkt', hpkts, hbuild⟩ := h.packets
  have hpay := horderly.syn a h.input h.key_eq h.syn (by simp [hpkts])
  have hcalls : callsOf key [entry] = [] := by simp [callsOf, h.calls]
  have hflag : a.segment.flags.syn = true := by
    have hsyn := h.syn
    simp only [isInitialTcpSynSegment, Bool.and_eq_true] at hsyn
    exact hsyn.1.1
  refine ⟨?_, ?_, ?_, ?_⟩
  · rw [hcalls]
    intro _ _ hmem
    cases hmem
  · rintro _ ⟨⟩
    rfl
  · rintro _ ⟨⟩
    have hnext : (a.newSession key).clientNextSequenceNumber = a.segment.sequenceNumber + 1 := by
      simp [Arrival.newSession, tcpSegmentNextSequenceNumber, tcpSegmentSequenceLen, hflag, h.fin,
        hpay]
    rw [hnext, offset_self]
    exact Nat.zero_le _
  · intro earlier last hlast pkt hpkt
    obtain rfl : last = entry := by
      have := congrArg List.getLast? hlast
      simpa using this.symm
    rw [hpkts] at hpkt
    obtain rfl := mem_singleton.mp hpkt
    exact synAck_within h.fin hpay _ hbuild

theorem AckedSoFar.quiet (h : AckedSoFar key isn state entries)
    (hwrs : ∀ frame res, .write frame res ∉ entry.callsOf key)
    (hpkts : entry.packetsOf key = [])
    (hinitial : ∀ r, state' = .active r → r.clientInitialSequenceNumber = isn)
    (hacked : state'.Acked isn ((written (callsOf key entries)).length + lateBytes key entries)) :
    AckedSoFar key isn state' (entries ++ [entry]) := by
  have hle : (written (callsOf key entries)).length + lateBytes key entries ≤
      (written (callsOf key (entries ++ [entry]))).length + lateBytes key (entries ++ [entry]) := by
    rw [callsOf_append, written_append, length_append, lateBytes_append]
    omega
  refine ⟨?_, hinitial, hacked.mono hle, ?_⟩
  · intro frame res hmem
    rw [callsOf_append] at hmem
    rcases mem_append.mp hmem with hmem | hmem
    · exact h.writes frame res hmem
    · exact absurd hmem (hwrs frame res)
  · intro earlier last hlast pkt hpkt
    obtain ⟨_, hlast⟩ := append_inj' hlast rfl
    cases hlast
    rw [hpkts] at hpkt
    cases hpkt

theorem AckedSoFar.next (horderly : Orderly key entry) (hbef : entry.before.At key state)
    (hwf : state.WellFormed key) (hafter : entry.after.At key state')
    (hcont : Continues key entry state state') (h : AckedSoFar key isn state entries) :
    AckedSoFar key isn state' (entries ++ [entry]) := by
  cases hcont with
  | idle hcalls hpkts => exact h.quiet (by simp [hcalls]) hpkts h.initial h.acked
  | pruned hcalls hpkts =>
    exact h.quiet (by simp [hcalls]) hpkts (fun _ hr => nomatch hr) (fun _ hx => nomatch hx)
  | expired _ hcalls hpkts =>
    exact h.quiet (by simp [hcalls]) hpkts (fun _ hr => nomatch hr) (fun _ hx => nomatch hx)
  | @run a control _ _ packets hin hkey hrun hemits =>
    have hremoval : ∀ r, state = .active r → state'.recordedFin ≠ none → offset
        r.clientNextSequenceNumber (tcpSegmentNextSequenceNumber a.segment) ≤ 1 := by
      rintro r rfl hfin
      exact horderly.removal a r hin hbef.session (hafter.recordedFin ▸ hfin)
    have honce : state.finAccepted = true → state.recordedFin = none →
        state'.recordedFin = none := by
      rw [← hbef.clientFinAccepted, ← hbef.recordedFin, ← hafter.recordedFin]
      exact horderly.once
    have hbound : (written (callsOf key (entries ++ [entry]))).length +
        lateBytes key (entries ++ [entry]) = (written (callsOf key entries)).length +
          lateBytes key entries + (written (entry.callsOf key)).length +
          lateBetween a state state' := by
      rw [callsOf_append, written_append, length_append, lateBytes_append,
        lateBytes_segment hbef hafter hin]
      omega
    refine ⟨?_, ?_, ?_, ?_⟩
    · intro frame res hmem
      rw [callsOf_append] at hmem
      rcases mem_append.mp hmem with hmem | hmem
      · exact h.writes frame res hmem
      · exact horderly.writes frame res hmem
    · intro r hr
      obtain ⟨r₀, hr₀, heq⟩ := hrun.clientInitial r hr
      exact heq.trans (h.initial r₀ hr₀)
    · rw [hbound]
      exact hrun.acked rfl h.acked hremoval honce
    · intro earlier last hlast pkt hpkt
      obtain ⟨_, hlast⟩ := append_inj' hlast rfl
      cases hlast
      rcases hemits with hemits | ⟨hemits, _⟩
      · have hsyn := fun hsyn => horderly.syn a hin hkey hsyn (ne_nil_of_mem hpkt)
        rw [hemits] at hpkt
        rw [hbound, hafter.clientFinAccepted]
        exact hrun.ackWithin rfl hwf h.initial hsyn h.acked hremoval honce pkt hpkt
      · rw [hemits] at hpkt
        cases hpkt

end

def sendingClient : List Input :=
  [clientSegment 100 0 0x0002 [], clientSegment 101 8 0x0010 [],
    clientSegment 101 8 0x0018 [1, 2]].map fun segment => .segment (.ofClient 7 segment)

def sendingEntries : List Entry :=
  incarnation clientKey (execute (scriptedRelay (.ok ())) 4 [] sendingClient).trace

/-- A client whose `FIN` comes late, with two bytes, after it acknowledged the server's close. -/
def lateFinClient : List Input :=
  [clientSegment 100 0 0x0002 [], clientSegment 101 8 0x0010 [], clientSegment 101 8 0x0010 [],
    clientSegment 101 9 0x0010 [], clientSegment 101 9 0x0019 [1, 2]].map fun segment =>
      .segment (.ofClient 7 segment)

end KeliNative.Tun
