import KeliNative.Tun.LoopSummary
import KeliNative.Tun.Script

/-!
# What a packet loop counts

A turn prunes, reads once from the device, handles the packet and records the event.
-/

namespace KeliNative.Tun
open Program

namespace TunPacketLoopSummary

def processedPackets (summary : TunPacketLoopSummary) : ℕ :=
  summary.dnsResponsesWritten + summary.udpRelayResponsesWritten + summary.tcpResetsWritten +
    summary.tcpSessionEvents + summary.relayPackets + summary.droppedPackets +
    summary.unsupportedPackets + summary.packetErrors + summary.udpRelayErrors +
    summary.tcpSessionErrors

variable (summary : TunPacketLoopSummary)

theorem processedPackets_recordEvent {ev : TunPacketLoopEvent} (h : ev ≠ .noPacket) :
    (summary.recordEvent ev).processedPackets = summary.processedPackets + 1 := by
  cases ev with
  | noPacket => exact absurd rfl h
  | tcpSession plan step packetsWritten =>
    have hkind : ∀ s : TunPacketLoopSummary,
        (s.recordCloseMarkerReset step).processedPackets = s.processedPackets := by
      intro s
      cases step with
      | closeMarkerReset sess kind => cases kind <;> rfl
      | _ => rfl
    rw [recordEvent, hkind]
    simp only [processedPackets, recordRelayPlan]
    omega
  | _ =>
    simp only [recordEvent, processedPackets, recordRelayPlan, recordDnsHijackedRoute,
      recordDroppedRoute]
    omega

theorem idleEvents_recordEvent {ev : TunPacketLoopEvent} (h : ev ≠ .noPacket) :
    (summary.recordEvent ev).idleEvents = summary.idleEvents := by
  cases ev with
  | noPacket => exact absurd rfl h
  | tcpSession plan step packetsWritten =>
    cases step with
    | closeMarkerReset sess kind => cases kind <;> rfl
    | _ => rfl
  | _ => rfl

theorem packetLimitReached_recordEvent (ev : TunPacketLoopEvent) :
    (summary.recordEvent ev).packetLimitReached = summary.packetLimitReached := by
  cases ev with
  | tcpSession plan step packetsWritten =>
    cases step with
    | closeMarkerReset sess kind => cases kind <;> rfl
    | _ => rfl
  | _ => rfl

theorem processedPackets_recordTcpSessionPruneReport (report : TunTcpSessionPruneReport) :
    (summary.recordTcpSessionPruneReport report).processedPackets =
      summary.processedPackets + report.closeErrors := by
  simp only [processedPackets, recordTcpSessionPruneReport]
  omega

end TunPacketLoopSummary

section

variable {σ : Type} (ipText : IpText) (parts : TunParts σ) (settings : TunSettings)
  (idleTimeout : Duration)

def pruneNow (s : TunTcpSessionTable × σ) :
    TunTcpSessionPruneReport × (TunTcpSessionTable × σ) :=
  let (now, world) := parts.now s.2
  pruneIdleTunTcpSessions parts.tcpRelay now idleTimeout (s.1, world)

def packetLoop : ℕ → TunPacketLoopSummary → TunProgram σ (TunPacketLoopSummary × Bool)
  | 0, summary => .pure (summary, true)
  | n + 1, summary => fun s =>
    let (report, s) := pruneNow parts idleTimeout s
    let summary := summary.recordTcpSessionPruneReport report
    match processTunDevicePacketWithRelays ipText parts settings s with
    | (.error error, s) => (.error error, s)
    | (.ok event, s) =>
      let summary := (summary.recordEvent event).recordTcpSessionTableState s.1
      if event = .noPacket then (.ok (summary, false), s) else packetLoop n summary s

def runTunPacketLoopWithRelaysSummaryWithIdleTimeout (maxPackets : ℕ) :
    TunProgram σ TunPacketLoopSummary := fun s =>
  match packetLoop ipText parts settings idleTimeout maxPackets {} s with
  | (.error error, s) => (.error error, s)
  | (.ok (summary, packetLimitReached), s) =>
    let summary := if packetLimitReached then summary.recordPacketLimitReached else summary
    (.ok (summary.recordTcpSessionTableState s.1), s)

/-- One turn of the loop: how many closes failed in its prune, and what its read returned. -/
structure LoopTurn where
  closeErrors : ℕ
  read : Option Bytes
  deriving DecidableEq

/-- The turns of the loop, each with the one read it makes from the device. -/
def loopTurns : ℕ → TunTcpSessionTable × σ → List LoopTurn
  | 0, _ => []
  | n + 1, s =>
    let (report, s) := pruneNow parts idleTimeout s
    match parts.readPacket s.2 with
    | (.error _, _) => []
    | (.ok none, _) => [⟨report.closeErrors, none⟩]
    | (.ok (some packet), world) =>
      ⟨report.closeErrors, some packet⟩ ::
        match handleTunPacket ipText parts settings packet (s.1, world) with
        | (.error _, _) => []
        | (.ok _, s) => loopTurns n s

def packetsRead (turns : List LoopTurn) : ℕ := turns.countP (·.read.isSome)

def idleReads (turns : List LoopTurn) : ℕ := turns.countP (·.read.isNone)

def failedCloses (turns : List LoopTurn) : ℕ := (turns.map (·.closeErrors)).sum

theorem packetsRead_add_idleReads (turns : List LoopTurn) :
    packetsRead turns + idleReads turns = turns.length := by
  induction turns with
  | nil => rfl
  | cons turn rest ih =>
    simp only [packetsRead, idleReads, List.countP_cons, List.length_cons] at ih ⊢
    cases turn.read with
    | none => simp; omega
    | some pkt => simp; omega

theorem guarantees_any {τ ε α : Type} (prog : Program τ ε α) :
    Guarantees (fun _ => True) (fun _ => True) prog := fun _ _ => ⟨trivial, fun _ _ => trivial⟩

theorem handleTunPacket_ne_noPacket (pkt : Bytes) :
    Guarantees (fun _ => True) (· ≠ .noPacket) (handleTunPacket ipText parts settings pkt) := by
  refine guarantees_bind (guarantees_any _) fun out _ => ?_
  rcases out with error | (resp | resp | plan)
  · exact guarantees_pure nofun
  · exact guarantees_bind (guarantees_any _) fun _ _ => guarantees_pure nofun
  · exact guarantees_bind (guarantees_any _) fun _ _ => guarantees_pure nofun
  · have hudp : Guarantees (fun _ => True) (· ≠ .noPacket) (relayUdpPlan parts pkt plan) := by
      refine guarantees_bind (guarantees_any _) fun out _ => ?_
      cases out with
      | error error => exact guarantees_pure nofun
      | ok resp => exact guarantees_bind (guarantees_any _) fun _ _ => guarantees_pure nofun
    have htcp : Guarantees (fun _ => True) (· ≠ .noPacket)
        (relayTcpPlan parts settings pkt plan) := by
      unfold relayTcpPlan
      cases parseTunTcpSegment pkt with
      | error error => exact guarantees_pure nofun
      | ok seg =>
        refine guarantees_bind (guarantees_any _) fun now _ => ?_
        refine guarantees_bind (guarantees_any _) fun out _ => ?_
        cases out with
        | error error => exact guarantees_pure nofun
        | ok step => exact guarantees_bind (guarantees_any _) fun _ _ => guarantees_pure nofun
    have hplain : loopEventForRelayPlan plan ≠ .noPacket := by
      unfold loopEventForRelayPlan
      split <;> nofun
    unfold relayTunPacket
    dsimp only
    split
    · exact hudp
    · exact hudp
    · exact htcp
    · exact htcp
    · exact guarantees_pure hplain

variable {ipText parts settings idleTimeout}

theorem packetLoop_counts {n : ℕ} {summary summary' : TunPacketLoopSummary} {limit : Bool}
    {s s' : TunTcpSessionTable × σ}
    (h : packetLoop ipText parts settings idleTimeout n summary s = (.ok (summary', limit), s')) :
    summary'.processedPackets = summary.processedPackets +
      packetsRead (loopTurns ipText parts settings idleTimeout n s) +
      failedCloses (loopTurns ipText parts settings idleTimeout n s) ∧
    summary'.idleEvents = summary.idleEvents +
      idleReads (loopTurns ipText parts settings idleTimeout n s) ∧
    summary'.packetLimitReached = summary.packetLimitReached ∧
    (limit = true ↔ (loopTurns ipText parts settings idleTimeout n s).length = n ∧
      idleReads (loopTurns ipText parts settings idleTimeout n s) = 0) := by
  induction n generalizing summary s with
  | zero =>
    cases h
    exact ⟨rfl, rfl, rfl, by simp [loopTurns, idleReads]⟩
  | succ n ih =>
    rcases hprune : pruneNow parts idleTimeout s with ⟨report, t⟩
    rcases hread : parts.readPacket t.2 with ⟨read, world⟩
    have hprocess : processTunDevicePacketWithRelays ipText parts settings t =
        match read with
        | .error error => (.error (.read error), (t.1, world))
        | .ok none => (.ok .noPacket, (t.1, world))
        | .ok (some pkt) => handleTunPacket ipText parts settings pkt (t.1, world) := by
      show Program.bind (mapError TunPacketLoopError.read (beside parts.readPacket)) _ t = _
      simp only [Program.bind, mapError, beside, hread]
      rcases read with error | (_ | pkt) <;> rfl
    have hreport := summary.processedPackets_recordTcpSessionPruneReport report
    simp only [packetLoop, hprune, hprocess] at h
    simp only [loopTurns, hprune, hread]
    rcases read with error | (_ | pkt)
    · cases h
    · -- An idle read ends the loop.
      simp only [if_pos] at h
      cases h
      refine ⟨?_, rfl, rfl, ?_⟩
      · exact hreport.trans (by simp [packetsRead, failedCloses])
      · simp [idleReads]
    · dsimp only at h ⊢
      rcases hhandle : handleTunPacket ipText parts settings pkt (t.1, world) with ⟨out, s''⟩
      simp only [hhandle] at h ⊢
      cases out with
      | error error => cases h
      | ok ev =>
        have hev : ev ≠ .noPacket :=
          (handleTunPacket_ne_noPacket ipText parts settings pkt (t.1, world) trivial).2 ev
            (by rw [hhandle])
        dsimp only at h ⊢
        rw [if_neg hev] at h
        obtain ⟨hprocessed, hidle, hflag, hlim⟩ := ih h
        have hone := (summary.recordTcpSessionPruneReport report).processedPackets_recordEvent hev
        have hstill := (summary.recordTcpSessionPruneReport report).idleEvents_recordEvent hev
        have hunset := (summary.recordTcpSessionPruneReport report).packetLimitReached_recordEvent ev
        refine ⟨?_, ?_, hflag.trans hunset, ?_⟩
        · have htable : ∀ (x : TunPacketLoopSummary) (table : TunTcpSessionTable),
              (x.recordTcpSessionTableState table).processedPackets = x.processedPackets :=
            fun _ _ => rfl
          rw [hprocessed, htable, hone, hreport]
          simp only [packetsRead, failedCloses, List.countP_cons, List.map_cons, List.sum_cons,
            Option.isSome_some, ite_true]
          omega
        · refine hidle.trans ?_
          have htable : ∀ (x : TunPacketLoopSummary) (table : TunTcpSessionTable),
              (x.recordTcpSessionTableState table).idleEvents = x.idleEvents := fun _ _ => rfl
          rw [htable, hstill]
          simp only [idleReads, List.countP_cons, Option.isNone_some, Bool.false_eq_true, ite_false,
            Nat.add_zero]
          rfl
        · rw [hlim]
          simp only [idleReads, List.countP_cons, List.length_cons, Option.isNone_some,
            Bool.false_eq_true, ite_false, Nat.add_zero]
          omega

end

/-- The summary counts the packets read exactly if no close failed in the prunes. -/
theorem loop_accounting_iff {σ : Type} (ipText : IpText) (parts : TunParts σ)
    (settings : TunSettings) (idleTimeout : Duration) (maxPackets : ℕ)
    (s s' : TunTcpSessionTable × σ) (summary : TunPacketLoopSummary)
    (h : runTunPacketLoopWithRelaysSummaryWithIdleTimeout ipText parts settings idleTimeout
      maxPackets s = (.ok summary, s')) :
    let turns := loopTurns ipText parts settings idleTimeout maxPackets s
    ((summary.processedPackets = packetsRead turns ∧
      summary.processedPackets + summary.idleEvents = turns.length ∧
      (summary.packetLimitReached = true ↔ turns.length = maxPackets ∧ idleReads turns = 0)) ↔
    failedCloses turns = 0) ∧
    summary.processedPackets = packetsRead turns + failedCloses turns ∧
    (summary.packetLimitReached = true ↔ turns.length = maxPackets ∧ idleReads turns = 0) := by
  intro turns
  unfold runTunPacketLoopWithRelaysSummaryWithIdleTimeout at h
  rcases hloop : packetLoop ipText parts settings idleTimeout maxPackets {} s with ⟨outcome, s''⟩
  rw [hloop] at h
  cases outcome with
  | error error => cases h
  | ok result =>
    obtain ⟨counted, limit⟩ := result
    obtain ⟨hprocessed, hidle, hflag, hlim⟩ := packetLoop_counts hloop
    have hreads := packetsRead_add_idleReads turns
    have hsummary : summary.processedPackets = packetsRead turns + failedCloses turns ∧
        summary.idleEvents = idleReads turns ∧ summary.packetLimitReached = limit := by
      cases h
      cases limit with
      | true => exact ⟨by rw [← Nat.zero_add (packetsRead turns)]; exact hprocessed,
          hidle.trans (Nat.zero_add _), rfl⟩
      | false => exact ⟨by rw [← Nat.zero_add (packetsRead turns)]; exact hprocessed,
          hidle.trans (Nat.zero_add _), hflag⟩
    obtain ⟨hpkts, hevs, hset⟩ := hsummary
    rw [hset, hpkts, hevs]
    refine ⟨?_, rfl, hlim⟩
    constructor
    · rintro ⟨hequal, _, _⟩
      omega
    · intro hnone
      exact ⟨by omega, by omega, hlim⟩

/-- A device without packets, at a time when every session is idle. -/
def idleParts (close : Except String Unit) : TunParts (List TunTcpServerRead) where
  readPacket := .pure none
  writePacket _ := .pure ()
  resolve _ _ := .pure []
  udpRelay := ⟨fun _ _ => .fail "", fun _ _ _ => .fail ""⟩
  tcpRelay := { scriptedRelay (.ok ()) with closeSession := fun _ replies => (close, replies) }
  now replies := (1000, replies)

def idleSettings : TunSettings := ⟨⟨[], .direct⟩, false, 60, 7, 0x4000⟩

def openedTable : TunTcpSessionTable :=
  (TunTcpSessionTable.startFromSyn (clientSegment 100 0 0x0002 []) 7 0x4000 0
    (.withMaxActiveSessions 4)).2

/-- A device that gives the same SYN again and again. -/
def synParts : TunParts (List TunTcpServerRead) :=
  { idleParts (.ok ()) with
    readPacket := .pure (some [0x45, 0, 0, 40, 0, 0, 0, 0, 64, 6, 0, 0, 10, 0, 0, 2, 192, 0, 2, 1,
      0xc0, 0, 0x01, 0xbb, 0, 0, 0, 1, 0, 0, 0, 0, 0x50, 0x02, 0, 0, 0, 0, 0, 0]) }

theorem loop_accounting_syns :
    ∃ summary s', runTunPacketLoopWithRelaysSummaryWithIdleTimeout decimalIpText synParts idleSettings
      10 2 (openedTable, []) = (.ok summary, s') ∧
      summary.processedPackets =
        packetsRead (loopTurns decimalIpText synParts idleSettings 10 2 (openedTable, [])) ∧
      packetsRead (loopTurns decimalIpText synParts idleSettings 10 2 (openedTable, [])) = 2 := by
  have hok : (runTunPacketLoopWithRelaysSummaryWithIdleTimeout decimalIpText synParts idleSettings
      10 2 (openedTable, [])).1.toOption.isSome := by decide +kernel
  rcases hrun : runTunPacketLoopWithRelaysSummaryWithIdleTimeout decimalIpText synParts idleSettings
      10 2 (openedTable, []) with ⟨outcome, s'⟩
  rw [hrun] at hok
  cases outcome with
  | error => cases hok
  | ok summary =>
    have hcounts := loop_accounting_iff decimalIpText synParts idleSettings 10 2 _ _ summary hrun
    exact ⟨summary, s', rfl, (hcounts.1.mpr (by decide +kernel)).1, by decide +kernel⟩

/-- The close of an idle session fails in the prune: one packet is counted and none was read. -/
theorem failed_close_counted :
    ∃ summary, (runTunPacketLoopWithRelaysSummaryWithIdleTimeout decimalIpText
      (idleParts (.error "refused")) idleSettings 10 1 (openedTable, [])).1 = .ok summary ∧
      summary.processedPackets = 1 ∧
      packetsRead (loopTurns decimalIpText (idleParts (.error "refused")) idleSettings 10 1
        (openedTable, [])) = 0 :=
  ⟨_, rfl, by decide +kernel, by decide +kernel⟩

end KeliNative.Tun
