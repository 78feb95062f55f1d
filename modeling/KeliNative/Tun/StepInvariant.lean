import KeliNative.Tun.TableInvariant

/-!
# Steps keep the table's invariant

A step and a prune keep the table's invariant, with any relay and any segments.
-/

namespace KeliNative.Tun
open TunTcpSessionTable Program

structure TunTcpSessionRelay.Preserves {ρ : Type} (relay : TunTcpSessionRelay ρ) (inv : ρ → Prop) :
    Prop where
  establish : ∀ plan session s, inv s → inv (relay.establish plan session s).2
  write : ∀ frame s, inv s → inv (relay.writeClientPayload frame s).2
  shutdown : ∀ session s, inv s → inv (relay.shutdownClientWrite session s).2
  read : ∀ session s, inv s → inv (relay.readServerEvent session s).2
  poll : ∀ session s, inv s → inv (relay.pollServerEvent session s).2
  close : ∀ session s, inv s → inv (relay.closeSession session s).2

theorem preserves_true {ρ : Type} (relay : TunTcpSessionRelay ρ) :
    relay.Preserves fun _ => True := by
  constructor <;> intros <;> trivial

section

variable {ρ α : Type} {limit : ℕ} {inv : ρ → Prop} {relay : TunTcpSessionRelay ρ}

/-- What a step keeps: the table's invariant and a property of the relay's state. -/
def Both (limit : ℕ) (inv : ρ → Prop) (s : TunTcpSessionTable × ρ) : Prop :=
  s.1.Sound limit ∧ inv s.2

theorem preserves_onTable {operation : TableProgram α} (h : Preserves (Sound limit) operation) :
    Preserves (Both limit inv) (onTable operation) :=
  fun s hs => ⟨h s.1 hs.1, hs.2⟩

theorem preserves_callRelay {call : ρ → Except String α × ρ} (h : ∀ s, inv s → inv (call s).2) :
    Preserves (Both limit inv) (callRelay call) :=
  fun s hs => ⟨hs.1, h s.2 hs.2⟩

theorem preserves_resetStep (seg : TunTcpSegment) :
    Preserves (Both limit inv) (resetStep seg) := by
  intro s hs
  unfold resetStep
  split <;> exact hs

variable (hrelay : relay.Preserves inv) (a : Arrival)

include hrelay

theorem preserves_closeFromServer (sess : TunTcpSessionRecord) :
    Preserves (Both limit inv) (closeTunTcpSessionFromServer relay a.now sess) := by
  refine preserves_ifLet (preserves_onTable (closeServerSide_preserves _ _)) (fun resp => ?_)
    (preserves_pure none)
  exact preserves_bind (preserves_callRelay (hrelay.close _)) fun _ => preserves_pure _

theorem preserves_readServerEvent (sess : TunTcpSessionRecord) :
    Preserves (Both limit inv) (readTunTcpServerEvent relay a.now sess) := by
  refine preserves_bind (preserves_callRelay (hrelay.read sess)) fun read => ?_
  cases read with
  | noPayload => exact preserves_pure _
  | payload data =>
    exact preserves_bind (preserves_onTable (sendServerPayload_preserves _ _ _))
      fun _ => preserves_pure _
  | closed =>
    exact preserves_bind (preserves_closeFromServer hrelay a sess) fun _ => preserves_pure _

theorem preserves_clientPayloadStep (frame : TunTcpClientPayloadFrame)
    (step : Option TunTcpServerPayloadFrame → Option TunTcpServerCloseFrame → TunTcpSessionStep) :
    Preserves (Both limit inv) (clientPayloadStep relay a.now frame step) := by
  refine preserves_bind (preserves_callRelay (hrelay.write frame)) fun _ => ?_
  exact preserves_bind (preserves_readServerEvent hrelay a _) fun _ => preserves_pure _

variable {next : SessionProgram ρ TunTcpSessionStep}

theorem preserves_clientFinBlock (hnext : Preserves (Both limit inv) next) :
    Preserves (Both limit inv) (clientFinBlock relay a.segment a.now next) := by
  unfold clientFinBlock
  split
  · refine preserves_ifLet
      (preserves_onTable (operation_sound a .retransmitServerPayloadForDuplicateClientFin))
      (fun _ => preserves_pure _) ?_
    refine preserves_ifLet (preserves_onTable (operation_sound a .acknowledgeDuplicateClientFin))
      (fun resp => ?_) ?_
    · refine preserves_bind (preserves_readServerEvent hrelay a _) fun server => ?_
      obtain ⟨serverResponse, serverClose⟩ := server
      exact preserves_ite (preserves_pure _) (preserves_pure _)
    split
    · refine preserves_ifLet (preserves_onTable (operation_sound a .acceptClientFinWithPayload))
        (fun found => ?_) hnext
      refine preserves_bind (preserves_callRelay (hrelay.write _)) fun _ => ?_
      refine preserves_bind (preserves_callRelay (hrelay.shutdown _)) fun _ => ?_
      exact preserves_bind (preserves_readServerEvent hrelay a _) fun _ => preserves_pure _
    · refine preserves_ifLet (preserves_onTable (operation_sound a .acknowledgeClientFin))
        (fun found => ?_) hnext
      refine preserves_bind (preserves_callRelay (hrelay.shutdown _)) fun _ => ?_
      exact preserves_bind (preserves_readServerEvent hrelay a _) fun _ => preserves_pure _
  · exact hnext

theorem preserves_processClosingSegment :
    Preserves (Both limit inv) (processClosingSegment relay a.segment a.now) := by
  refine preserves_clientFinBlock hrelay a ?_
  refine preserves_ifLet (preserves_onTable (operation_sound a .removeOnClose)) (fun found => ?_) ?_
  · exact preserves_bind (preserves_callRelay (hrelay.close _)) fun _ => preserves_pure _
  have hrst : Preserves (Both limit inv)
      (closeMarkerRstBlock a.segment (Program.pure .noop) : SessionProgram ρ _) := by
    unfold closeMarkerRstBlock
    split
    · refine preserves_ifLet (preserves_onTable (operation_sound a .removeServerCloseOnRst))
        (fun _ => preserves_pure _) ?_
      exact preserves_ifLet (preserves_onTable (operation_sound a .removePostCloseOnRst))
        (fun _ => preserves_pure _) (preserves_pure _)
    · exact preserves_pure _
  have hunk : Preserves (Both limit inv) (unknownFinBlock a.segment
      (closeMarkerRstBlock a.segment (Program.pure .noop)) : SessionProgram ρ _) := by
    unfold unknownFinBlock
    split
    · exact preserves_ifLet (preserves_onTable (getFlow_preserves _)) (fun _ => hrst)
        (preserves_resetStep _)
    · exact hrst
  unfold closeMarkerFinBlock
  split
  · refine preserves_ifLet (preserves_onTable (operation_sound a .acknowledgeServerCloseWithClientFin))
      (fun _ => preserves_pure _) ?_
    refine preserves_ifLet
      (preserves_onTable (operation_sound a .retransmitServerCloseForDuplicateClientFin))
      (fun _ => preserves_pure _) ?_
    exact preserves_ifLet (preserves_onTable (operation_sound a .acknowledgePostCloseClientFin))
      (fun _ => preserves_pure _) hunk
  · exact hunk

omit hrelay in
theorem preserves_processInitialSyn : Preserves (Both limit inv) (processInitialSyn a.segment a.now
    a.serverInitialSequenceNumber a.windowSize) := by
  have hstart : Preserves (Both limit inv) (Program.bind (onTable (startFromSyn a.segment
      a.serverInitialSequenceNumber a.windowSize a.now)) fun resp =>
        (Program.pure (.synAck resp) : SessionProgram ρ TunTcpSessionStep)) :=
    preserves_bind (preserves_onTable (startFromSyn_preserves a)) fun _ => preserves_pure _
  refine preserves_ifLet (preserves_onTable (operation_sound a .acknowledgeRetransmittedSyn))
    (fun _ => preserves_pure _) ?_
  refine preserves_ifLet (preserves_onTable (getFlow_preserves _)) (fun sess => ?_) hstart
  split
  · exact preserves_pure _
  · exact hstart

theorem preserves_serverPayloadBlock (hnext : Preserves (Both limit inv) next) :
    Preserves (Both limit inv) (serverPayloadBlock relay a.segment a.now next) := by
  have hack : Preserves (Both limit inv) (acknowledgmentBlock a.segment a.now next) := by
    refine preserves_ifLet (preserves_onTable (operation_sound a .acknowledgeClientAck))
      (fun _ => preserves_pure _) ?_
    refine preserves_ifLet (preserves_onTable (operation_sound a .retransmitServerClose))
      (fun _ => preserves_pure _) ?_
    refine preserves_ifLet (preserves_onTable (operation_sound a .acknowledgeServerClose))
      (fun _ => preserves_pure _) ?_
    exact preserves_ifLet (preserves_onTable (operation_sound a .acknowledgePostCloseAck))
      (fun _ => preserves_pure _) hnext
  refine preserves_ifLet (preserves_onTable (operation_sound a .retransmitServerPayload))
    (fun _ => preserves_pure _) ?_
  refine preserves_ifLet (preserves_onTable (operation_sound a .serverPayloadPollSession))
    (fun sess => ?_) hack
  refine preserves_bind (preserves_callRelay (hrelay.poll sess)) fun read => ?_
  cases read with
  | noPayload => exact preserves_pure _
  | payload data =>
    exact preserves_ifLet (preserves_onTable (sendServerPayload_preserves _ _ _))
      (fun _ => preserves_pure _) hack
  | closed =>
    exact preserves_ifLet (preserves_closeFromServer hrelay a sess) (fun _ => preserves_pure _) hack

theorem preserves_processOpenSegment :
    Preserves (Both limit inv) (processOpenSegment relay a.segment a.relayPlan a.now) := by
  have hest : Preserves (Both limit inv)
      (establishBlock relay a.segment a.relayPlan a.now) := by
    unfold establishBlock
    split
    · refine preserves_ifLet (preserves_onTable (operation_sound a .applyAck)) (fun sess => ?_)
        (preserves_pure _)
      exact preserves_bind (preserves_callRelay (hrelay.establish _ _)) fun _ => preserves_pure _
    · exact preserves_pure _
  have hreset : Preserves (Both limit inv) (resetUnknownBlock a.segment : SessionProgram ρ _) := by
    unfold resetUnknownBlock
    split
    · exact preserves_ifLet (preserves_onTable (getFlow_preserves _)) (fun _ => preserves_pure _)
        (preserves_resetStep _)
    · exact preserves_pure _
  refine preserves_bind hest fun established => ?_
  refine preserves_ifLet (preserves_onTable (operation_sound a .acceptClientPayload))
    (fun _ => preserves_clientPayloadStep hrelay a _ _) ?_
  refine preserves_ifLet (preserves_onTable (operation_sound a .acceptOverlappingClientPayload))
    (fun _ => preserves_clientPayloadStep hrelay a _ _) ?_
  refine preserves_ifLet (preserves_onTable (operation_sound a .acknowledgeDuplicateClientPayload))
    (fun _ => preserves_pure _) ?_
  refine preserves_ifLet (preserves_onTable (operation_sound a .acknowledgeOutOfOrderClientPayload))
    (fun _ => preserves_pure _) ?_
  cases established with
  | none => exact preserves_serverPayloadBlock hrelay a hreset
  | some sess => exact preserves_pure _

theorem preserves_process : Preserves (Both limit inv)
    (processTunTcpSessionSegmentWithRelayPlan relay a.segment a.relayPlan a.now
      a.serverInitialSequenceNumber a.windowSize) := by
  unfold processTunTcpSessionSegmentWithRelayPlan
  split
  · exact preserves_processClosingSegment hrelay a
  · split
    · exact preserves_processInitialSyn a
    · exact preserves_processOpenSegment hrelay a

theorem closePrunedSessions_preserves (sessions : List TunTcpSessionRecord)
    (report : TunTcpSessionPruneReport) (init : ρ) (hinv : inv init) :
    inv (closePrunedSessions relay sessions report init).2 := by
  induction sessions generalizing report init with
  | nil => exact hinv
  | cons sess rest ih =>
    have hclose := hrelay.close sess init hinv
    rcases hrun : relay.closeSession sess init with ⟨res, relayState'⟩
    rw [hrun] at hclose
    simp only [closePrunedSessions, hrun]
    cases res with
    | ok _ => exact ih _ _ hclose
    | error error => exact ih _ _ hclose

theorem pruneIdleTunTcpSessions_preserves (now : Instant) (idleTimeout : Duration)
    (s : TunTcpSessionTable × ρ) (hs : Both limit inv s) :
    Both limit inv (pruneIdleTunTcpSessions relay now idleTimeout s).2 :=
  ⟨⟨pruneIdle_inv hs.1.inv now idleTimeout, hs.1.limit_eq⟩,
    closePrunedSessions_preserves hrelay _ _ _ hs.2⟩

end

end KeliNative.Tun
