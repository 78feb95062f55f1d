import KeliNative.Tun.LoopAccounting
import KeliNative.Tun.Reachable
import KeliNative.Tun.Refine

/-!
# Segments with `RST`

A packet with `RST` is never answered.
-/

namespace KeliNative.Tun
open TunTcpSessionTable Program TunTcpSessionKey

section

variable {ρ : Type} (relay : TunTcpSessionRelay ρ) {segment : TunTcpSegment}
  (relayPlan : Option TunPacketRelayPlan) (now : Instant) (serverInitialSequenceNumber : UInt32)
  (windowSize : UInt16)

section

variable (hrst : segment.flags.rst = true)

include hrst

theorem process_rst :
    processTunTcpSessionSegmentWithRelayPlan relay segment relayPlan now serverInitialSequenceNumber
      windowSize =
    removeBlock relay segment now (closeMarkerRstBlock segment (Program.pure .noop)) := by
  have hfin : ¬(segment.flags.fin = true ∧ ¬segment.flags.rst = true) := fun h => h.2 hrst
  unfold processTunTcpSessionSegmentWithRelayPlan processClosingSegment clientFinBlock
    closeMarkerFinBlock unknownFinBlock
  rw [if_pos (.inl hrst), if_neg hfin, if_neg hfin, if_neg hfin]
  rfl

/-- A session that an `RST` removes leaves no answer, and no marker is put for it. -/
theorem removeOnClose_rst (table : TunTcpSessionTable) :
    (∃ error, removeOnClose segment now table = (.error error, table)) ∨
    removeOnClose segment now table = (.ok none, table) ∨
    ∃ key r, fromFlow segment.flow = .ok key ∧
      table.sessions.lookup key = some r ∧
      removeOnClose segment now table =
        (.ok (some (r, none)), { table with sessions := table.sessions.erase key }) := by
  unfold removeOnClose
  rw [if_neg (by simp [hrst])]
  cases hkey : fromFlow segment.flow with
  | error error => exact .inl ⟨error, rfl⟩
  | ok key =>
    cases hr : table.sessions.lookup key with
    | none => exact .inr (.inl (by simp only [hr]))
    | some r =>
      simp only [hr]
      split
      · exact .inr (.inl rfl)
      · rw [if_neg (by simp [hrst])]
        exact .inr (.inr ⟨key, r, rfl, hr, rfl⟩)

theorem guarantees_removeOnClose_rst :
    Guarantees (fun _ => True) (fun found => ∀ removed, found = some removed → removed.2 = none)
      (onTable (removeOnClose segment now) : SessionProgram ρ _) := by
  rintro ⟨table, init⟩ _
  refine ⟨trivial, fun found hfound removed hremoved => ?_⟩
  change Except.mapError _ (removeOnClose segment now table).1 = .ok found at hfound
  rcases removeOnClose_rst now hrst table with ⟨error, hrun⟩ | hrun | ⟨key, r, _, _, hrun⟩
  · rw [hrun] at hfound
    cases hfound
  · rw [hrun] at hfound
    cases hfound
    cases hremoved
  · rw [hrun] at hfound
    cases hfound
    cases hremoved
    rfl

theorem process_rst_silent :
    Guarantees (fun _ => True) (·.responsePackets = [])
      (processTunTcpSessionSegmentWithRelayPlan relay segment relayPlan now
        serverInitialSequenceNumber windowSize) := by
  have hmarker : Guarantees (fun _ => True) (·.responsePackets = [])
      (closeMarkerRstBlock segment (Program.pure .noop) : SessionProgram ρ TunTcpSessionStep) := by
    unfold closeMarkerRstBlock
    rw [if_pos hrst]
    refine guarantees_bind (guarantees_any _) fun found _ => ?_
    cases found with
    | some sess => exact guarantees_pure rfl
    | none =>
      refine guarantees_bind (guarantees_any _) fun found _ => ?_
      cases found with
      | some sess => exact guarantees_pure rfl
      | none => exact guarantees_pure rfl
  rw [process_rst relay relayPlan now serverInitialSequenceNumber windowSize hrst]
  refine guarantees_bind (guarantees_removeOnClose_rst now hrst) fun found hfound => ?_
  cases found with
  | none => exact hmarker
  | some removed =>
    obtain ⟨sess, resp⟩ := removed
    obtain rfl : resp = none := hfound _ rfl
    exact guarantees_bind (guarantees_any _) fun _ _ => guarantees_pure rfl

end

theorem removeServerCloseOnRst_sessions (table : TunTcpSessionTable) :
    (removeServerCloseOnRst segment table).2.sessions = table.sessions := by
  unfold removeServerCloseOnRst
  split_ifs
  · rfl
  cases fromFlow segment.flow with
  | error error => rfl
  | ok key =>
    dsimp only
    split
    · rfl
    · split_ifs <;> rfl

theorem removePostCloseOnRst_sessions (table : TunTcpSessionTable) :
    (removePostCloseOnRst segment table).2.sessions = table.sessions := by
  unfold removePostCloseOnRst
  split_ifs
  · rfl
  cases fromFlow segment.flow with
  | error error => rfl
  | ok key =>
    dsimp only
    split
    · rfl
    · split_ifs <;> rfl

theorem closeMarkerRstBlock_sessions (hrst : segment.flags.rst = true)
    (s : TunTcpSessionTable × ρ) :
    Ensures (closeMarkerRstBlock segment (Program.pure .noop)) s
      fun _ after => after.1.sessions = s.1.sessions := by
  unfold closeMarkerRstBlock
  rw [if_pos hrst]
  have hsrv : Ensures (onTable (removeServerCloseOnRst segment)) s
      fun _ after => after.1.sessions = s.1.sessions := removeServerCloseOnRst_sessions s.1
  refine ensures_ifLet hsrv (fun _ _ h => h) (fun s' h => ?_) fun _ _ h => h
  have hpost : Ensures (onTable (removePostCloseOnRst segment)) s'
      fun _ after => after.1.sessions = s.1.sessions := (removePostCloseOnRst_sessions s'.1).trans h
  exact ensures_ifLet hpost (fun _ _ h => h) (fun _ h => h) fun _ _ h => h

/-- The relay hears of a removed session once, and its key is free afterwards. -/
theorem process_rst_closes (hrst : segment.flags.rst = true) {table : TunTcpSessionTable}
    (hinv : table.Inv) {key : TunTcpSessionKey} {r : TunTcpSessionRecord}
    (hkey : fromFlow segment.flow = .ok key)
    (hr : table.sessions.lookup key = some r) (init : ρ) (log : List RelayEvent) :
    Ensures (processTunTcpSessionSegmentWithRelayPlan relay.recording segment relayPlan now
      serverInitialSequenceNumber windowSize) (table, (init, log)) fun _ after =>
      after.1.sessions.lookup key = none →
      (∃ res, after.2.2 = log ++ [.close r res]) ∧
      after.1.serverClosedSessions.lookup key = none ∧
      after.1.postClosedSessions.lookup key = none := by
  have hat := hinv.session hr
  have hstays : ∀ after : TunTcpSessionTable, after.sessions = table.sessions →
      after.sessions.lookup key ≠ none := by
    intro after hsame
    rw [hsame, hr]
    exact nofun
  have hremove : Ensures (onTable (removeOnClose segment now)) (table, (init, log))
      fun found after => (∀ removed, found ≠ .ok (some removed)) ∧ after.1.sessions = table.sessions ∨
        found = .ok (some (r, none)) ∧
          after = ({ table with sessions := table.sessions.erase key }, (init, log)) := by
    change (∀ removed, Except.mapError _ (removeOnClose segment now table).1 ≠ .ok (some removed)) ∧
      (removeOnClose segment now table).2.sessions = _ ∨
      Except.mapError _ (removeOnClose segment now table).1 = _ ∧
        ((removeOnClose segment now table).2, (init, log)) = _
    rcases removeOnClose_rst now hrst table with ⟨error, hrun⟩ | hrun | ⟨key', r', hkey', hr', hrun⟩
    · rw [hrun]
      refine .inl ⟨fun removed h => ?_, rfl⟩
      simp only [Except.mapError, reduceCtorEq] at h
    · rw [hrun]
      refine .inl ⟨fun removed h => ?_, rfl⟩
      simp only [Except.mapError, Except.ok.injEq, reduceCtorEq] at h
    · obtain rfl : key' = key := Except.ok.inj (hkey'.symm.trans hkey)
      obtain rfl : r' = r := Option.some.inj (hr'.symm.trans hr)
      rw [hrun]
      exact .inr ⟨rfl, rfl⟩
  rw [process_rst relay.recording relayPlan now serverInitialSequenceNumber windowSize hrst]
  refine ensures_ifLet hremove ?_ ?_ ?_
  · rintro removed after (⟨hnone, _⟩ | ⟨hfound, rfl⟩)
    · exact absurd rfl (hnone removed)
    · cases hfound
      rcases hclose : relay.closeSession r init with ⟨res, relayState'⟩
      have hcall : Ensures (callRelay (relay.recording.closeSession r))
          ({ table with sessions := table.sessions.erase key }, (init, log))
          fun _ after => after = ({ table with sessions := table.sessions.erase key },
            (relayState', log ++ [.close r res])) := by
        simp only [Ensures, callRelay, TunTcpSessionRelay.recording, record, hclose]
      refine ensures_bind hcall ?_ ?_
      · rintro _ after rfl _
        exact ⟨⟨res, rfl⟩, hat.closed, hat.post⟩
      · rintro _ after rfl _
        exact ⟨⟨res, rfl⟩, hat.closed, hat.post⟩
  · rintro after (⟨_, hsame⟩ | ⟨hfound, _⟩)
    · intro hgone
      exact absurd hgone (hstays _ ((closeMarkerRstBlock_sessions hrst after).trans hsame))
    · cases hfound
  · rintro error after (⟨_, hsame⟩ | ⟨hfound, _⟩)
    · intro hgone
      exact absurd hgone (hstays _ hsame)
    · cases hfound

end

section

variable {σ : Type} (ipText : IpText) (parts : TunParts σ) (settings : TunSettings) {packet : Bytes}
  {segment : TunTcpSegment} (hseg : parseTunTcpSegment packet = .ok segment)
  (hrst : segment.flags.rst = true)

include hseg

theorem parseTunUdpPayload_of_tcp : ∃ error, parseTunUdpPayload packet = .error error := by
  unfold parseTunTcpSegment at hseg
  unfold parseTunUdpPayload
  cases hparts : parseTunPacketParts packet with
  | error error => exact ⟨error, rfl⟩
  | ok res =>
    obtain ⟨flow, transport⟩ := res
    rw [hparts] at hseg
    by_cases htcp : flow.protocol = .tcp
    · refine ⟨.expectedUdpPayload flow.protocol, ?_⟩
      dsimp only
      rw [if_pos (by rw [htcp]; nofun)]
    · dsimp only at hseg
      rw [if_pos htcp] at hseg
      cases hseg

include hrst

theorem processTunPacket_rst : Guarantees (fun _ => True) (fun action => ∃ plan, action = .relay plan)
    (processTunPacket ipText parts settings packet) := by
  obtain ⟨error, hudp⟩ := parseTunUdpPayload_of_tcp hseg
  have hhijack : planTunDnsHijack packet = .error error := by
    unfold planTunDnsHijack
    rw [hudp]
    rfl
  refine guarantees_bind (guarantees_any _) fun plan _ => ?_
  refine guarantees_ite (fun _ => ?_) fun _ => guarantees_ite (fun _ => ?_) fun _ =>
    guarantees_pure ⟨plan, rfl⟩
  · have hfails : Guarantees (fun _ => True) (fun _ => False)
        (buildTunDnsHijackResponse parts settings packet) := by
      have hplan : Guarantees (fun _ : σ => True) (fun _ => False)
          (ofExcept (planTunDnsHijack packet)) := by
        rw [hhijack]
        exact guarantees_fail error
      exact guarantees_bind hplan fun _ hfalse => hfalse.elim
    exact guarantees_bind hfails fun _ hfalse => hfalse.elim
  · have hparse : Guarantees (fun _ : σ => True) (· = segment)
        (ofExcept (parseTunTcpSegment packet)) := by
      rw [hseg]
      exact guarantees_pure rfl
    refine guarantees_bind hparse fun seg' heq => ?_
    subst heq
    rw [if_pos hrst]
    exact guarantees_pure ⟨plan, rfl⟩

theorem relayTunPacket_rst (plan : TunPacketRelayPlan) (put : Bytes → Program σ String Unit) :
    relayTunPacket { parts with writePacket := put } settings packet plan =
      relayTunPacket parts settings packet plan := by
  obtain ⟨error, hudp⟩ := parseTunUdpPayload_of_tcp hseg
  have hudpPlan : relayUdpPlan { parts with writePacket := put } packet plan =
      relayUdpPlan parts packet plan := by
    have hfail : ∀ parts : TunParts σ, relayTunUdpPacket parts packet plan = fail (.packet error) := by
      intro parts
      unfold relayTunUdpPacket
      rw [hudp]
      rfl
    unfold relayUdpPlan
    rw [hfail, hfail]
    rfl
  have htcpPlan : relayTcpPlan { parts with writePacket := put } settings packet plan =
      relayTcpPlan parts settings packet plan := by
    unfold relayTcpPlan
    rw [hseg]
    funext s
    obtain ⟨table, world⟩ := s
    rcases hclock : parts.now world with ⟨now, world'⟩
    have hsilent := (process_rst_silent parts.tcpRelay (some plan) now
      settings.serverInitialSequenceNumber settings.windowSize hrst (table, world') trivial).2
    show Program.bind (readClock _) _ _ = Program.bind (readClock _) _ _
    simp only [Program.bind, readClock, hclock]
    show Program.bind (attempt _) _ _ = Program.bind (attempt _) _ _
    simp only [Program.bind, attempt]
    rcases hstep : processTunTcpSessionSegmentWithRelayPlan parts.tcpRelay segment (some plan) now
      settings.serverInitialSequenceNumber settings.windowSize (table, world') with ⟨out, s'⟩
    rw [hstep] at hsilent
    cases out with
    | error error => rfl
    | ok step =>
      have hnone : step.responsePackets = [] := hsilent step rfl
      simp only [hnone, writeTunPackets]
  unfold relayTunPacket
  split
  · exact hudpPlan
  · exact hudpPlan
  · exact htcpPlan
  · exact htcpPlan
  · rfl

theorem handleTunPacket_rst (put : Bytes → Program σ String Unit) :
    handleTunPacket ipText { parts with writePacket := put } settings packet =
      handleTunPacket ipText parts settings packet := by
  funext s
  have hrelay := (processTunPacket_rst ipText parts settings hseg hrst s.2 trivial).2
  have hsame : processTunPacket ipText { parts with writePacket := put } settings packet =
      processTunPacket ipText parts settings packet := rfl
  unfold handleTunPacket
  rw [hsame]
  show Program.bind (attempt _) _ _ = Program.bind (attempt _) _ _
  simp only [Program.bind, attempt, beside]
  rcases hrun : processTunPacket ipText parts settings packet s.2 with ⟨out, world⟩
  rw [hrun] at hrelay
  cases out with
  | error error => rfl
  | ok action =>
    obtain ⟨plan, rfl⟩ := hrelay action rfl
    exact congrFun (relayTunPacket_rst parts settings hseg hrst plan put) _

end

/-- A packet with `RST` is handled without a write, and a session it removes is closed once. -/
theorem rst_never_answered {n : ℕ} {table : TunTcpSessionTable} (hreach : table.Reachable n)
    {packet : Bytes} {segment : TunTcpSegment} (hseg : parseTunTcpSegment packet = .ok segment)
    (hrst : segment.flags.rst = true) :
    (∀ (σ : Type) (ipText : IpText) (parts : TunParts σ) (settings : TunSettings) (s s' : σ),
      parts.readPacket s = (.ok (some packet), s') →
      ∀ writePacket, processTunDevicePacketWithRelays ipText { parts with writePacket := writePacket }
        settings (table, s) = processTunDevicePacketWithRelays ipText parts settings (table, s)) ∧
    ∀ (ρ : Type) (relay : TunTcpSessionRelay ρ) relayPlan now serverInitialSequenceNumber windowSize
      relayState log key r, TunTcpSessionKey.fromFlow segment.flow = .ok key →
      table.sessions.lookup key = some r →
      Ensures (processTunTcpSessionSegmentWithRelayPlan relay.recording segment relayPlan now
        serverInitialSequenceNumber windowSize) (table, (relayState, log)) fun _ after =>
        after.1.sessions.lookup key = none →
        (∃ result, after.2.2 = log ++ [.close r result]) ∧
        after.1.serverClosedSessions.lookup key = none ∧
        after.1.postClosedSessions.lookup key = none := by
  constructor
  · intro σ ipText parts settings s s' hread writePacket
    have hhandle := handleTunPacket_rst ipText parts settings hseg hrst writePacket
    unfold processTunDevicePacketWithRelays
    show Program.bind (mapError TunPacketLoopError.read (beside parts.readPacket)) _ _ =
      Program.bind (mapError TunPacketLoopError.read (beside parts.readPacket)) _ _
    simp only [Program.bind, mapError, beside, hread, Except.mapError]
    exact congrFun hhandle _
  · intro ρ relay relayPlan now serverInitialSequenceNumber windowSize relayState log key r hkey hr
    exact process_rst_closes relay relayPlan now serverInitialSequenceNumber windowSize hrst
      hreach.sound.1 hkey hr relayState log

def rstPacket : Bytes := [0x45, 0, 0, 40, 0, 0, 0, 0, 64, 6, 0, 0, 10, 0, 0, 2, 192, 0, 2, 1,
  0xc0, 0, 0x01, 0xbb, 0, 0, 0, 101, 0, 0, 0, 0, 0x50, 0x04, 0, 0, 0, 0, 0, 0]

def rstSegment : TunTcpSegment := ⟨clientFlow, 101, 0, 20, .fromBits 0x04, 0, []⟩

theorem rst_never_answered_opened :
    (∀ (σ : Type) (ipText : IpText) (parts : TunParts σ) (settings : TunSettings) (s s' : σ),
      parts.readPacket s = (.ok (some rstPacket), s') →
      ∀ writePacket, processTunDevicePacketWithRelays ipText { parts with writePacket := writePacket }
        settings (openedTable, s) =
          processTunDevicePacketWithRelays ipText parts settings (openedTable, s)) ∧
    ∃ r result, openedTable.sessions.lookup clientKey = some r ∧
      (processTunTcpSessionSegmentWithRelayPlan (scriptedRelay (.ok ())).recording rstSegment none 0
        7 0x4000 (openedTable, ([], []))).2.2.2 = [.close r result] := by
  have hreach : openedTable.Reachable 4 := .startFromSyn .empty _ _ _ _
  obtain ⟨hsame, hcloses⟩ := @rst_never_answered 4 _ hreach rstPacket rstSegment (by decide +kernel) rfl
  have hopen : (openedTable.sessions.lookup clientKey).isSome := by decide +kernel
  obtain ⟨r, hr⟩ := Option.isSome_iff_exists.mp hopen
  obtain ⟨⟨result, hlog⟩, -⟩ := hcloses _ (scriptedRelay (.ok ())) none 0 7 0x4000 [] [] clientKey r
    fromFlow_clientFlow hr (by decide +kernel)
  exact ⟨hsame, r, result, hr, hlog⟩

end KeliNative.Tun
