import KeliNative.Relay.PumpHistory

/-!
# Runs of the pump

A run is its turns, followed by the close of both streams.
-/

namespace KeliNative.Relay
open Program List

section

variable {source target : Side} {pending : PendingWrite} {count : ℕ} {eof : Bool}
  {history : List RelayEvent} {event : RelayEvent}

namespace Carried

section

variable (h : Carried source target pending count eof history)

include h

theorem written_isPrefix : writtenTo target history <+: receivedFrom source history := by
  rw [h.stream]
  exact prefix_append _ _

theorem frame (event : RelayEvent) (hrecv : event.bytesReceived source = [])
    (hwrote : event.bytesWritten target = []) :
    Carried source target pending count eof (history ++ [event]) where
  stream := by
    rw [receivedFrom_concat, writtenTo_concat, hrecv, hwrote, append_nil, append_nil]
    exact h.stream
  counted := by
    rw [receivedFrom_concat, hrecv, append_nil]
    exact h.counted
  ended heof := mem_append_left _ (h.ended heof)

theorem received (hempty : pending.isEmpty = true) (bytes : Bytes) :
    Carried source target (.set bytes) (count + bytes.length) eof
      (history ++ [.received source bytes]) := by
  have hbytes : receivedFrom source (history ++ [.received source bytes]) =
      receivedFrom source history ++ bytes := by
    rw [receivedFrom_concat, RelayEvent.bytesReceived, if_pos rfl]
  constructor
  case stream =>
    have hwrote : (RelayEvent.received source bytes).bytesWritten target = [] := rfl
    rw [hbytes, h.stream, PendingWrite.remaining_eq_nil hempty, writtenTo_concat,
      PendingWrite.remaining_set, hwrote]
  case counted => rw [hbytes, length_append, h.counted]
  case ended =>
    intro heof
    exact mem_append_left _ (h.ended heof)

theorem endOfFile : Carried source target pending count true (history ++ [.endOfFile source]) where
  stream := (h.frame _ rfl rfl).stream
  counted := (h.frame _ rfl rfl).counted
  ended _ := mem_append_right _ (mem_singleton_self _)

theorem wrote (n : ℕ) :
    Carried source target (pending.advance n) count eof
      (history ++ [.wrote target (pending.remaining.take n)]) := by
  have hbytes : receivedFrom source (history ++ [.wrote target (pending.remaining.take n)]) =
      receivedFrom source history := by
    rw [receivedFrom_concat]
    exact append_nil _
  constructor
  case stream =>
    rw [hbytes, h.stream, writtenTo_concat, RelayEvent.bytesWritten, if_pos rfl, append_assoc,
      PendingWrite.remaining_advance, take_append_drop]
  case counted =>
    rw [hbytes]
    exact h.counted
  case ended =>
    intro heof
    exact mem_append_left _ (h.ended heof)

end

end Carried

theorem always_faithful_concat (h : Always Faithful history)
    (hremote : writtenTo .remote (history ++ [event]) <+: receivedFrom .client (history ++ [event]))
    (hcli : writtenTo .client (history ++ [event]) <+: receivedFrom .remote (history ++ [event]))
    (hne : event ≠ .shutdownWrite .remote) : Always Faithful (history ++ [event]) := by
  refine always_concat.mpr ⟨h, hremote, hcli, ?_⟩
  intro before heq
  have hlast : [event] = [.shutdownWrite .remote] := (append_inj' heq rfl).2
  exact absurd (List.cons.inj hlast).1 hne

theorem always_faithful_silent (h : Always Faithful history)
    (hrecv : ∀ side, event.bytesReceived side = []) (hwrote : ∀ side, event.bytesWritten side = [])
    (hne : event ≠ .shutdownWrite .remote) : Always Faithful (history ++ [event]) := by
  refine always_faithful_concat h ?_ ?_ hne
  · rw [writtenTo_concat, receivedFrom_concat, hrecv, hwrote, append_nil, append_nil]
    exact h.now.toRemote
  · rw [writtenTo_concat, receivedFrom_concat, hrecv, hwrote, append_nil, append_nil]
    exact h.now.toClient

end

section

variable {loop loop' : RelayLoop} {history : List RelayEvent} {event : RelayEvent}

theorem LoopInvariant.concat (h : LoopInvariant loop history)
    (hupload : Carried .client .remote loop'.upload loop'.clientToRemoteBytes loop'.clientEof
      (history ++ [event]))
    (hdownload : Carried .remote .client loop'.download loop'.remoteToClientBytes loop'.remoteEof
      (history ++ [event]))
    (hhalf : loop'.remoteWriteShutdown = loop.remoteWriteShutdown)
    (hne : event ≠ .shutdownWrite .remote) (hopen : event ≠ .shutdownBoth .remote) :
    LoopInvariant loop' (history ++ [event]) where
  faithful := always_faithful_concat h.faithful hupload.written_isPrefix hdownload.written_isPrefix hne
  upload := hupload
  download := hdownload
  notHalfClosed hflag hmem := by
    rcases mem_append.mp hmem with hmem | hmem
    · exact h.notHalfClosed (hhalf ▸ hflag) hmem
    · exact hne (mem_singleton.mp hmem).symm
  notClosed hmem := by
    rcases mem_append.mp hmem with hmem | hmem
    · exact h.notClosed hmem
    · exact hopen (mem_singleton.mp hmem).symm

theorem LoopInvariant.failed (h : LoopInvariant loop history) (error : RelayError) :
    LoopFailed error history :=
  ⟨h.faithful, .inl h.notClosed⟩

theorem loopInvariant_start (started : Instant) : LoopInvariant (.start started) [] where
  faithful := always_faithful_nil
  upload := ⟨rfl, rfl, nofun⟩
  download := ⟨rfl, rfl, nofun⟩
  notHalfClosed _ := not_mem_nil
  notClosed := not_mem_nil

theorem LoopInvariant.halfClose (h : LoopInvariant loop history) (heof : loop.clientEof = true)
    (hempty : loop.upload.isEmpty = true) (hopen : loop.remoteWriteShutdown = false) :
    LoopInvariant { loop with remoteWriteShutdown := true }
      (history ++ [.shutdownWrite .remote]) where
  faithful := by
    refine always_concat.mpr ⟨h.faithful, ?_, ?_, ?_⟩
    · exact (h.upload.frame _ rfl rfl).written_isPrefix
    · exact (h.download.frame _ rfl rfl).written_isPrefix
    · intro before heq
      obtain rfl : history = before := (append_inj' heq rfl).1
      have hstr := h.upload.stream
      rw [PendingWrite.remaining_eq_nil hempty, append_nil] at hstr
      exact ⟨h.upload.ended heof, hstr.symm, h.notHalfClosed hopen⟩
  upload := h.upload.frame _ rfl rfl
  download := h.download.frame _ rfl rfl
  notHalfClosed := nofun
  notClosed hmem := by
    rcases mem_append.mp hmem with hmem | hmem
    · exact h.notClosed hmem
    · exact nomatch mem_singleton.mp hmem

end

section

variable {ω : Type} {loop : RelayLoop} {s : ω × List RelayEvent}

abbrev KeepsLoop : Except RelayError (RelayLoop × Bool) → ω × List RelayEvent → Prop :=
  Outcome (fun result s => LoopInvariant result.1 s.2) fun error s => LoopFailed error s.2

variable (env : RelayEnvironment ω)

theorem readClient_keeps (h : LoopInvariant loop s.2) :
    Ensures (readClient env.recording loop) s KeepsLoop := by
  refine ensures_bind (pumpRead_recorded .client env.client loop.upload _ loop.clientEof s) ?_ ?_
  · rintro ⟨read, upload⟩ ⟨world, history⟩ hread
    cases hread with
    | bytes hempty =>
      exact h.concat (h.upload.received hempty _) (h.download.frame _ rfl rfl) rfl nofun nofun
    | eof => exact h.concat h.upload.endOfFile (h.download.frame _ rfl rfl) rfl nofun nofun
    | noProgress => exact h
  · rintro error ⟨world, history⟩ rfl
    exact h.failed error

theorem readRemote_keeps (started : Instant) (h : LoopInvariant loop s.2) :
    Ensures (readRemote env.recording started loop) s KeepsLoop := by
  refine ensures_bind (pumpRead_recorded .remote env.remote loop.download _ loop.remoteEof s) ?_ ?_
  · rintro ⟨read, download⟩ ⟨world, history⟩ hread
    cases hread with
    | bytes hempty =>
      have hrecv := h.download.received hempty
      cases loop.remoteFirstByteAfter with
      | none => exact h.concat (h.upload.frame _ rfl rfl) (hrecv _) rfl nofun nofun
      | some duration => exact h.concat (h.upload.frame _ rfl rfl) (hrecv _) rfl nofun nofun
    | eof => exact h.concat (h.upload.frame _ rfl rfl) h.download.endOfFile rfl nofun nofun
    | noProgress => exact h
  · rintro error ⟨world, history⟩ rfl
    exact h.failed error

theorem LoopInvariant.pumpedToRemote {pending pending' : PendingWrite}
    {history history' : List RelayEvent}
    (hwrs : PumpedWrites .remote pending history pending' history')
    (h : LoopInvariant { loop with upload := pending } history) :
    LoopInvariant { loop with upload := pending' } history' := by
  induction hwrs with
  | done => exact h
  | write count _ ih =>
    exact ih (h.concat (h.upload.wrote count) (h.download.frame _ rfl rfl) rfl nofun nofun)

theorem LoopInvariant.pumpedToClient {pending pending' : PendingWrite}
    {history history' : List RelayEvent}
    (hwrs : PumpedWrites .client pending history pending' history')
    (h : LoopInvariant { loop with download := pending } history) :
    LoopInvariant { loop with download := pending' } history' := by
  induction hwrs with
  | done => exact h
  | write count _ ih =>
    exact ih (h.concat (h.upload.frame _ rfl rfl) (h.download.wrote count) rfl nofun nofun)

theorem writeRemote_keeps (h : LoopInvariant loop s.2) :
    Ensures (writeRemote env.recording loop) s KeepsLoop := by
  refine ensures_bind (pumpWriteLoop_recorded .remote env.remote _ loop.upload false s) ?_ ?_
  · intro result s' hwrs
    exact LoopInvariant.pumpedToRemote hwrs h
  · rintro error s' ⟨pending, hwrs⟩
    exact (LoopInvariant.pumpedToRemote hwrs h).failed error

theorem writeClient_keeps (h : LoopInvariant loop s.2) :
    Ensures (writeClient env.recording loop) s KeepsLoop := by
  refine ensures_bind (pumpWriteLoop_recorded .client env.client _ loop.download false s) ?_ ?_
  · intro result s' hwrs
    exact LoopInvariant.pumpedToClient hwrs h
  · rintro error s' ⟨pending, hwrs⟩
    exact (LoopInvariant.pumpedToClient hwrs h).failed error

theorem halfCloseRemote_keeps (h : LoopInvariant loop s.2) :
    Ensures (halfCloseRemote env.recording loop) s
      (Outcome (fun loop' s' => LoopInvariant loop' s'.2) fun _ _ => False) := by
  unfold halfCloseRemote
  split
  next hclose =>
    simp only [Bool.and_eq_true, Bool.not_eq_true'] at hclose
    exact h.halfClose hclose.1.1 hclose.1.2 hclose.2
  next => exact h

theorem failTimedOut_failed {kind : ConnectionErrorKind}
    (hkind : kind = .firstByteTimeout ∨ kind = .idleTimeout) (msg : String)
    (h : LoopInvariant loop s.2) :
    Ensures (failTimedOut env.recording kind msg) s
      (Outcome (fun _ _ => False) fun error s' => LoopFailed error s'.2) := by
  have hcli : Always Faithful (s.2 ++ [.shutdownBoth .client]) :=
    always_faithful_silent h.faithful (fun _ => rfl) (fun _ => rfl) nofun
  have hremote : Always Faithful (s.2 ++ [.shutdownBoth .client] ++ [.shutdownBoth .remote]) :=
    always_faithful_silent hcli (fun _ => rfl) (fun _ => rfl) nofun
  have hhistory : s.2 ++ [.shutdownBoth .client] ++ [.shutdownBoth .remote] =
      s.2 ++ [.shutdownBoth .client, .shutdownBoth .remote] := append_assoc ..
  exact ⟨hremote, .inr ⟨hkind, s.2, hhistory, h.notClosed⟩⟩

theorem checkTimeout_keeps (timeout : Option Duration) (reference : Instant)
    {kind : ConnectionErrorKind} (hkind : kind = .firstByteTimeout ∨ kind = .idleTimeout)
    (msg : String) (h : LoopInvariant loop s.2) :
    Ensures (checkTimeout env.recording timeout reference kind msg) s
      (Outcome (fun _ s' => LoopInvariant loop s'.2) fun error s' => LoopFailed error s'.2) := by
  cases timeout with
  | none => exact h
  | some timeout =>
    obtain ⟨world, history⟩ := s
    have helapsed : Ensures (elapsed env.recording reference) (world, history)
        (Outcome (fun _ s' => s'.2 = history) fun _ _ => False) := Eq.refl history
    refine ensures_bind helapsed ?_ ?_
    · rintro duration ⟨world', history'⟩ rfl
      split
      · exact (failTimedOut_failed env hkind msg h).mono fun
          | .error _, _, hfail => hfail
      · exact h
    · intro _ _ hfalse
      exact hfalse.elim

theorem endTurn_keeps (opts : RelayOptions) (started : Instant) (progressed : Bool)
    (h : LoopInvariant loop s.2) :
    Ensures (endTurn env.recording opts started loop progressed) s
      (Outcome
        (fun result s' => LoopInvariant result.1 s'.2 ∧
          (result.2 = true → result.1.remoteEof = true ∧ result.1.download.isEmpty = true))
        fun error s' => LoopFailed error s'.2) := by
  refine ensures_bind (halfCloseRemote_keeps env h) ?_ fun _ _ hfalse => hfalse.elim
  intro loop' s' h'
  split
  next hend =>
    rw [Bool.and_eq_true] at hend
    exact ⟨h'.concat (h'.upload.frame _ rfl rfl) (h'.download.frame _ rfl rfl) rfl nofun nofun,
      fun _ => hend⟩
  next =>
    have hcheck : Ensures (checkTimeouts env.recording opts started loop') s'
        (Outcome (fun _ s'' => LoopInvariant loop' s''.2) fun error s'' => LoopFailed error s''.2) := by
      unfold checkTimeouts
      cases loop'.remoteFirstByteAfter with
      | none => exact checkTimeout_keeps env _ _ (.inl rfl) _ h'
      | some _ => exact checkTimeout_keeps env _ _ (.inr rfl) _ h'
    refine ensures_bind hcheck ?_ fun _ _ hfail => hfail
    intro _ s'' h''
    cases progressed with
    | true => exact ⟨h'', nofun⟩
    | false => exact ⟨h'', nofun⟩

theorem relayTurn_keeps (opts : RelayOptions) (started : Instant) (h : LoopInvariant loop s.2) :
    Ensures (relayTurn env.recording opts started loop) s
      (Outcome
        (fun result s' => LoopInvariant result.1 s'.2 ∧
          (result.2 = true → result.1.remoteEof = true ∧ result.1.download.isEmpty = true))
        fun error s' => LoopFailed error s'.2) := by
  refine ensures_bind (readClient_keeps env h) ?_ fun _ _ hfail => hfail
  intro fromClient s₁ h₁
  refine ensures_bind (readRemote_keeps env started h₁) ?_ fun _ _ hfail => hfail
  intro fromRemote s₂ h₂
  refine ensures_bind (writeRemote_keeps env h₂) ?_ fun _ _ hfail => hfail
  intro toRemote s₃ h₃
  refine ensures_bind (writeClient_keeps env h₃) ?_ fun _ _ hfail => hfail
  intro toClient s₄ h₄
  exact endTurn_keeps env opts started _ h₄

end

/-- How a run stands after the turns it was given: the loop still runs, it was left and both
streams were closed, or an error was returned. -/
inductive RunStands : Except RelayError (Option RelayStats) → List RelayEvent → Prop
  | running {loop : RelayLoop} {history : List RelayEvent} (h : LoopInvariant loop history) :
    RunStands (.ok none) history
  | finished {loop : RelayLoop} {history : List RelayEvent} (h : LoopInvariant loop history)
    (heof : loop.remoteEof = true) (hempty : loop.download.isEmpty = true) :
    RunStands (.ok (some loop.stats)) (history ++ [.shutdownBoth .remote] ++ [.shutdownBoth .client])
  | failed {error : RelayError} {history : List RelayEvent} (h : LoopFailed error history) :
    RunStands (.error error) history

section

variable {ω : Type}

theorem relayLoop_stands (env : RelayEnvironment ω) (opts : RelayOptions) (started : Instant)
    (turns : ℕ) {loop : RelayLoop} {s : ω × List RelayEvent} (h : LoopInvariant loop s.2) :
    Ensures (relayLoop env.recording opts started turns loop) s
      fun result s' => RunStands result s'.2 := by
  induction turns generalizing loop s with
  | zero => exact .running h
  | succ turns ih =>
    refine ensures_bind (relayTurn_keeps env opts started h) ?_ ?_
    · rintro ⟨loop', left⟩ s' ⟨h', hleft⟩
      cases left with
      | true => exact .finished h' (hleft rfl).1 (hleft rfl).2
      | false => exact ih h'
    · intro error s' hfail
      exact .failed hfail

theorem relay_stands (env : RelayEnvironment ω) (opts : RelayOptions) (turns : ℕ) (world : ω) :
    Ensures (relayOwnedBidirectionalWithOptions env.recording opts turns) (world, [])
      fun result s => RunStands result s.2 := by
  -- Neither call adds an event, so a mode that cannot be set fails with an empty history.
  have hmode (side : Side) (stream : ByteStream ω) (world : ω) :
      Ensures (liftIo ((recordingStream side stream).setNonblockingMode true)) (world, [])
        fun _ s => s.2 = [] := append_nil []
  refine ensures_bind (hmode .client env.client world) ?_ ?_
  · rintro _ ⟨world₁, _⟩ rfl
    refine ensures_bind (hmode .remote env.remote world₁) ?_ ?_
    · rintro _ ⟨world₂, _⟩ rfl
      exact relayLoop_stands env opts _ turns (loopInvariant_start _)
    · rintro error ⟨_, _⟩ rfl
      exact .failed ⟨always_faithful_nil, .inl not_mem_nil⟩
  · rintro error ⟨_, _⟩ rfl
    exact .failed ⟨always_faithful_nil, .inl not_mem_nil⟩

end

namespace RunStands

variable {result : Except RelayError (Option RelayStats)} {history : List RelayEvent}

theorem faithful (h : RunStands result history) : Always Faithful history := by
  cases h with
  | running h => exact h.faithful
  | finished h =>
    refine always_faithful_silent ?_ (fun _ => rfl) (fun _ => rfl) nofun
    exact always_faithful_silent h.faithful (fun _ => rfl) (fun _ => rfl) nofun
  | failed h => exact h.faithful

theorem closed (h : RunStands result history) {before after : List RelayEvent}
    (hsplit : history = before ++ .shutdownBoth .remote :: after) :
    (after = [] ∨ after = [.shutdownBoth .client]) ∧
      (.endOfFile .remote ∈ before ∧ writtenTo .client before = receivedFrom .remote before ∨
        ∃ error, result = .error error ∧
          (error.kind = .firstByteTimeout ∨ error.kind = .idleTimeout)) := by
  cases h with
  | running h => exact absurd (hsplit ▸ mem_append_right _ mem_cons_self) h.notClosed
  | finished h heof hempty =>
    rw [append_assoc] at hsplit
    obtain ⟨rfl, -, hafter⟩ := (append_cons_inj_of_notMem h.notClosed (by decide)).mp hsplit
    have hstr := h.download.stream
    rw [PendingWrite.remaining_eq_nil hempty, append_nil] at hstr
    exact ⟨.inr hafter.symm, .inl ⟨h.download.ended heof, hstr.symm⟩⟩
  | @failed error history h =>
    rcases h.closed with hopen | ⟨hkind, start, rfl, hopen⟩
    · exact absurd (hsplit ▸ mem_append_right _ mem_cons_self) hopen
    · have hfirst : start ++ [.shutdownBoth .client, .shutdownBoth .remote] =
          (start ++ [.shutdownBoth .client]) ++ .shutdownBoth .remote :: [] := by
        rw [append_assoc]
        rfl
      have hstart : .shutdownBoth .remote ∉ start ++ [.shutdownBoth .client] := by
        intro hmem
        rcases mem_append.mp hmem with hmem | hmem
        · exact hopen hmem
        · exact nomatch mem_singleton.mp hmem
      rw [hfirst] at hsplit
      obtain ⟨-, -, hafter⟩ := (append_cons_inj_of_notMem hstart not_mem_nil).mp hsplit
      exact ⟨.inl hafter.symm, .inr ⟨error, rfl, hkind⟩⟩

theorem delivered (h : RunStands result history) {stats : RelayStats}
    (hok : result = .ok (some stats)) :
    .endOfFile .remote ∈ history ∧ writtenTo .client history = receivedFrom .remote history ∧
      stats.remoteToClientBytes = (receivedFrom .remote history).length ∧
      stats.clientToRemoteBytes = (receivedFrom .client history).length := by
  cases h with
  | running => exact nomatch hok
  | @finished loop history h heof hempty =>
    cases hok
    have hremote := (h.download.frame (.shutdownBoth .remote) rfl rfl).frame
      (.shutdownBoth .client) rfl rfl
    have hcli := (h.upload.frame (.shutdownBoth .remote) rfl rfl).frame
      (.shutdownBoth .client) rfl rfl
    have hstr := hremote.stream
    rw [PendingWrite.remaining_eq_nil hempty, append_nil] at hstr
    exact ⟨hremote.ended heof, hstr.symm, hremote.counted, hcli.counted⟩
  | failed => exact nomatch hok

end RunStands

/-- Both directions deliver in order at every moment, and the remote is half-closed and closed only
when it should be. -/
theorem relay_run_faithful {ω : Type} (env : RelayEnvironment ω) (options : RelayOptions)
    (turns : ℕ) (world : ω) :
    let run := relayOwnedBidirectionalWithOptions env.recording options turns (world, [])
    let history := run.2.2
    Always Faithful history ∧
      (∀ before after, history = before ++ .shutdownBoth .remote :: after →
        (after = [] ∨ after = [.shutdownBoth .client]) ∧
          (.endOfFile .remote ∈ before ∧ writtenTo .client before = receivedFrom .remote before ∨
            ∃ error, run.1 = .error error ∧
              (error.kind = .firstByteTimeout ∨ error.kind = .idleTimeout))) ∧
      ∀ stats, run.1 = .ok (some stats) →
        .endOfFile .remote ∈ history ∧ writtenTo .client history = receivedFrom .remote history ∧
          stats.remoteToClientBytes = (receivedFrom .remote history).length ∧
          stats.clientToRemoteBytes = (receivedFrom .client history).length := by
  have hstands := relay_stands env options turns world
  exact ⟨hstands.faithful, fun _ _ hsplit => hstands.closed hsplit,
    fun _ hok => hstands.delivered hok⟩

def wouldBlock : IoError := ⟨.wouldBlock, "Resource temporarily unavailable"⟩

/-- What the calls on the two streams are answered with, in order. A read without an answer
left would block, and a write takes everything. -/
structure ScriptedEnds where
  clientReads : List (Except IoError Bytes)
  remoteReads : List (Except IoError Bytes)
  clientWrites : List (Except IoError ℕ)
  remoteWrites : List (Except IoError ℕ)

def scriptedEnds : RelayEnvironment ScriptedEnds where
  client :=
    { setNonblockingMode := fun _ ends => (.ok (), ends)
      read := fun _ ends =>
        (ends.clientReads.headD (.error wouldBlock), { ends with clientReads := ends.clientReads.tail })
      write := fun bytes ends =>
        (ends.clientWrites.headD (.ok bytes.length), { ends with clientWrites := ends.clientWrites.tail })
      flush := fun ends => (.ok (), ends)
      shutdownWrite := fun ends => (.ok (), ends)
      shutdownBoth := fun ends => (.ok (), ends) }
  remote :=
    { setNonblockingMode := fun _ ends => (.ok (), ends)
      read := fun _ ends =>
        (ends.remoteReads.headD (.error wouldBlock), { ends with remoteReads := ends.remoteReads.tail })
      write := fun bytes ends =>
        (ends.remoteWrites.headD (.ok bytes.length), { ends with remoteWrites := ends.remoteWrites.tail })
      flush := fun ends => (.ok (), ends)
      shutdownWrite := fun ends => (.ok (), ends)
      shutdownBoth := fun ends => (.ok (), ends) }
  clock ends := (0, ends)
  sleep _ ends := ends

/-- The remote ends its stream while two bytes of the client are pending; they are not written, and
the write side is shut. -/
theorem relay_closes_remote_with_pending_upload :
    let run := relayOwnedBidirectionalWithOptions scriptedEnds.recording ⟨none, none⟩ 1
      (⟨[.ok [1, 2]], [.ok []], [], [.error wouldBlock]⟩, [])
    run.1 = .ok (some ⟨2, 0, none⟩) ∧
      ∃ before after, run.2.2 = before ++ .shutdownBoth .remote :: after ∧
        .endOfFile .client ∉ before ∧
        writtenTo .remote before = [] ∧ receivedFrom .client before = [1, 2] := by
  refine ⟨by decide, [.received .client [1, 2], .endOfFile .remote, .shutdownWrite .client],
    [.shutdownBoth .client], by decide, by decide, by decide, by decide⟩

end KeliNative.Relay
