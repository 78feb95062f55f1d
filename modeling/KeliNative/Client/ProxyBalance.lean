import KeliNative.Client.Session
import KeliNative.Client.TunBalance

/-!
# What was applied to the system proxy is restored

Whatever fails, every successful `apply` is answered by one `restore` of its snapshot.
-/

namespace KeliNative.Client
open Platform Program Custody

variable {ω L ι τ τ' S δ α : Type}

inductive ProxyCall where
  | apply (config : SystemProxyConfig) (answer : Except SystemProxyError SystemProxySnapshot)
  | restore (snapshot : SystemProxySnapshot) (answer : Except SystemProxyError Unit)
  deriving DecidableEq

/-- The controller, with a record of what it was asked and what it answered. -/
def recordingProxy (ctrl : SystemProxyController ω) :
    SystemProxyController (ω × List ProxyCall) where
  apply config := (ctrl.apply config).recorded fun answer => [.apply config answer]
  restore snapshot := (ctrl.restore snapshot).recorded fun answer => [.restore snapshot answer]

/-! The rest of the machine does not touch the record. -/

def MixedListeners.outside (listeners : MixedListeners ω L τ) :
    MixedListeners (ω × List ProxyCall) L τ where
  bind listen := (listeners.bind listen).outside
  localAddr listener := (listeners.localAddr listener).outside
  serve listener once runtime := (listeners.serve listener once runtime).outside
  spawn listener runtime s :=
    ((listeners.spawn listener runtime s.1).1, (listeners.spawn listener runtime s.1).2, s.2)
  join thread := (listeners.join thread).outside

def outsideTun (ctrl : TunPacketIoController ω ι) :
    TunPacketIoController (ω × List ProxyCall) ι where
  snapshot := ctrl.snapshot.outside
  start config := (ctrl.start config).outside
  stop := ctrl.stop.outside
  openPacketIo config := (ctrl.openPacketIo config).outside

theorem tunKeeps_outside (ctl : TunPacketIoController ω ι)
    (threads : PacketThreads ω ι τ' S) (hist : List ProxyCall) :
    TunKeeps (fun s => s.2 = hist) (outsideTun ctl) threads.outside where
  snapshot := fun _ h => h
  start := fun _ _ h => h
  stop := fun _ h => h
  openPacketIo := fun _ _ h => h
  spawn := fun _ _ _ h => h
  join := fun _ _ h => h

def ProxyCall.custody : ProxyCall → Option (Custody SystemProxySnapshot)
  | .apply _ (.ok snapshot) => some (.acquire snapshot)
  | .apply _ (.error _) => none
  | .restore snapshot _ => some (.release snapshot)

/-- Every successful `apply` is followed by one `restore` with its snapshot, and there are no
other restores. -/
def ProxyBalanced (calls : List ProxyCall) : Prop :=
  Custody.Balanced (calls.filterMap ProxyCall.custody)

def HeldBy (guard : Option ManagedSystemProxyGuard) (calls : List ProxyCall) : Prop :=
  calls.filterMap ProxyCall.custody =
    ((guard.bind (·.snapshot)).map Custody.acquire).toList

variable {calls : List ProxyCall}

theorem HeldBy.balanced (h : HeldBy none calls) : ProxyBalanced calls := by
  unfold ProxyBalanced
  rw [h]
  exact balanced_nil

theorem HeldBy.restored {guard : ManagedSystemProxyGuard} {snapshot : SystemProxySnapshot}
    (h : HeldBy (some guard) calls) (hguard : guard.snapshot = some snapshot)
    (answer : Except SystemProxyError Unit) :
    ProxyBalanced (calls ++ [.restore snapshot answer]) := by
  have hheld : calls.filterMap ProxyCall.custody = [.acquire snapshot] := by
    rw [h, Option.bind_some, hguard]
    rfl
  unfold ProxyBalanced
  rw [List.filterMap_append, hheld]
  exact balanced_pair snapshot

variable (ipText : IpText) (env : CoreEnvironment) (listeners : MixedListeners ω L τ)
  (ctrl : SystemProxyController ω) (tunCtrl : TunPacketIoController ω ι)
  (threads : PacketThreads ω ι τ' S) (now : ℕ → SystemTime)

theorem adds_of_keeps {prog : Program (ω × List ProxyCall) String α}
    (h : ∀ hist, Preserves (fun s => s.2 = hist) prog) (calls : List ProxyCall) (s : ω) :
    Adds calls s prog fun _ _ after => after = calls := by
  intro hist
  refine ⟨[], ?_, List.append_nil calls⟩
  rw [List.append_nil]
  exact h hist (s, hist) rfl

theorem adds_bindListener (listen : String) (calls : List ProxyCall) (s : ω) :
    Adds calls s (bindListener listeners.outside listen) fun _ _ after => after = calls :=
  adds_of_keeps (fun _ _ h => h) calls s

theorem adds_readAddress (listener : L) (calls : List ProxyCall) (s : ω) :
    Adds calls s (readListenerAddress listeners.outside listener) fun _ _ after => after = calls :=
  adds_of_keeps (fun _ _ h => h) calls s

theorem adds_restore {guard : ManagedSystemProxyGuard} (h : HeldBy (some guard) calls) (s : ω) :
    Adds calls s (guard.restore (recordingProxy ctrl)) fun _ _ after =>
      ProxyBalanced after := by
  unfold ManagedSystemProxyGuard.restore
  cases hguard : guard.snapshot with
  | none =>
    refine adds_pure (HeldBy.balanced ?_)
    unfold HeldBy at h
    rw [Option.bind_some, hguard] at h
    exact h
  | some snapshot =>
    have hcall : Adds calls s ((recordingProxy ctrl).restore snapshot) fun answer _ after =>
        after = calls ++ [.restore snapshot answer] :=
      (adds_recorded (ctrl.restore snapshot) _).mono fun _ _ _ hadded => hadded.2
    refine (adds_mapError _ hcall).mono ?_
    rintro out s' after ⟨answer, -, rfl⟩
    exact h.restored hguard answer

theorem adds_restoreOptional {guard : Option ManagedSystemProxyGuard} (h : HeldBy guard calls)
    (s : ω) :
    Adds calls s (restoreOptional (recordingProxy ctrl) guard) fun _ _ after =>
      ProxyBalanced after := by
  cases guard with
  | none => exact adds_pure h.balanced
  | some guard =>
    refine (adds_attempt (adds_restore ctrl h s)).mono ?_
    rintro out s' after ⟨_, -, hbal⟩
    exact hbal

def HoldsProxy (guard : α → Option ManagedSystemProxyGuard) :
    Except String α → List ProxyCall → Prop :=
  Outcome (fun value calls => HeldBy (guard value) calls) fun _ calls => ProxyBalanced calls

theorem adds_applyForListener (listener : L) (bypass : List String) (s : ω) :
    Adds [] s (applySystemProxyForListener ipText listeners.outside (recordingProxy ctrl)
      listener bypass) fun out _ after => HoldsProxy some out after := by
  unfold applySystemProxyForListener
  refine adds_bind (adds_readAddress listeners listener [] s) ?_ ?_
  · rintro addr s₁ after rfl
    refine adds_ofExcept_bind (fun cfg _ => ?_) fun _ _ => balanced_nil
    have hcall : Adds [] s₁ ((recordingProxy ctrl).apply (cfg.withBypass bypass))
        fun answer _ after => after = [.apply (cfg.withBypass bypass) answer] :=
      (adds_recorded (ctrl.apply (cfg.withBypass bypass)) _).mono
        fun _ _ _ hadded => hadded.2
    refine adds_bind (adds_mapError _ hcall) ?_ ?_
    · rintro snapshot s₂ after ⟨answer, hansw, rfl⟩
      rw [mapError_eq_ok hansw.symm]
      exact adds_pure rfl
    · rintro error s₂ after ⟨answer, hansw, rfl⟩
      cases answer with
      | ok snapshot => cases hansw
      | error proxyError => exact balanced_nil
  · rintro error s₁ after rfl
    exact balanced_nil

theorem adds_listenMixed (listen : String) (once : Bool) (rt : ManagedMixedRuntime)
    (bypass : List String) (s : ω) :
    Adds [] s (listenMixedWithSystemProxyController ipText listeners.outside
      (recordingProxy ctrl) listen once rt bypass) fun _ _ after =>
        ProxyBalanced after := by
  unfold listenMixedWithSystemProxyController
  refine adds_bind (adds_bindListener listeners listen [] s) ?_ ?_
  · rintro listener s₁ after rfl
    refine adds_bind (adds_readAddress listeners listener [] s₁) ?_ ?_
    · rintro addr s₂ after rfl
      refine adds_bind (adds_applyForListener ipText listeners ctrl listener bypass s₂) ?_
        fun _ _ _ hbal => hbal
      intro guard s₃ calls hheld
      refine adds_attempt_bind (adds_outside (listeners.serve listener once rt)) ?_
      rintro served s₄ after ⟨-, rfl⟩
      refine adds_attempt_bind (adds_restore ctrl hheld s₄) ?_
      intro undone s₅ after hbal
      rcases served with serveError | ⟨⟩ <;> rcases undone with restoreError | ⟨⟩
      · exact adds_fail hbal
      · exact adds_fail hbal
      · exact adds_fail hbal
      · exact adds_pure hbal
    · rintro error s₂ after rfl
      exact balanced_nil
  · rintro error s₁ after rfl
    exact balanced_nil

theorem adds_applyRequested (listener : L) (opts : ManagedMixedOptions) (s : ω) :
    Adds [] s (applyRequested ipText listeners.outside (recordingProxy ctrl) listener opts)
      fun out _ after => HoldsProxy id out after := by
  unfold applyRequested
  refine adds_ite (fun _ => ?_) fun _ => adds_pure rfl
  refine adds_bind (adds_applyForListener ipText listeners ctrl listener _ s) ?_
    fun _ _ _ hbal => hbal
  intro guard s' calls hheld
  exact adds_pure hheld

theorem adds_startSession (opts : ManagedMixedOptions) (text : String)
    (handles : RuntimeHandles) (s : ω) :
    Adds [] s (startFromSubscriptionConfigText env listeners.outside (recordingProxy ctrl)
        opts text now handles :
        Program (ω × List ProxyCall) String (ManagedMixedSession δ L))
      fun out _ after => HoldsProxy (·.systemProxyGuard) out after := by
  unfold startFromSubscriptionConfigText
  refine adds_bind (adds_bindListener listeners opts.listen [] s) ?_ ?_
  · rintro listener s₁ after rfl
    refine adds_bind (adds_readAddress listeners listener [] s₁) ?_ ?_
    · rintro addr s₂ after rfl
      refine adds_ofExcept_bind (fun core _ => ?_) fun _ _ => balanced_nil
      refine adds_bind (adds_applyRequested env.texts.ipText listeners ctrl listener opts
        s₂) ?_ fun _ _ _ hbal => hbal
      intro guard s₃ calls hheld
      exact adds_pure hheld
    · rintro error s₂ after rfl
      exact balanced_nil
  · rintro error s₁ after rfl
    exact balanced_nil

section

variable {session : ManagedMixedSession δ L} {calls : List ProxyCall}
  (h : HeldBy session.systemProxyGuard calls)
include h

theorem adds_sessionStop (s : ω) :
    Adds calls s (session.stop (recordingProxy ctrl) now) fun _ _ after =>
      ProxyBalanced after := by
  unfold ManagedMixedSession.stop
  refine adds_bind (adds_restoreOptional ctrl h s) ?_ fun _ _ _ hbal => hbal
  intro undone s' after hbal
  exact adds_ofExcept hbal

theorem adds_sessionServe (once : Bool) (s : ω) :
    Adds calls s (session.serve listeners.outside (recordingProxy ctrl) now once)
      fun _ _ after => ProxyBalanced after := by
  unfold ManagedMixedSession.serve
  refine adds_attempt_bind (adds_outside (listeners.serve session.listener once session.runtime)) ?_
  rintro served s₁ after ⟨-, rfl⟩
  refine adds_attempt_bind (adds_sessionStop ctrl now h s₁) ?_
  intro stopResult s₂ after hbal
  rcases served with serveError | ⟨⟩ <;> rcases stopResult with restoreError | state
  · exact adds_fail hbal
  · exact adds_fail hbal
  · exact adds_fail hbal
  · exact adds_pure hbal

theorem adds_sessionServeReport (tunNote : ManagedTunPacketLoopReport S → String × δ) (once : Bool)
    (tunDevice : Option TunDeviceConfig) (s : ω) :
    Adds calls s (session.serveWithOptionalTunControllerReport listeners.outside
      (recordingProxy ctrl) (outsideTun tunCtrl) threads.outside now ipText tunNote once
      tunDevice) fun _ _ after => ProxyBalanced after := by
  unfold ManagedMixedSession.serveWithOptionalTunControllerReport
  refine adds_attempt_bind (adds_of_keeps (fun hist =>
    (tunKeeps_outside tunCtrl threads hist).backgroundReport (fun _ hkept => hkept) ipText
      tunDevice) calls s) ?_
  rintro served s₁ after rfl
  refine adds_attempt_bind (adds_sessionStop ctrl now h s₁) ?_
  intro stopResult s₂ after hbal
  rcases served with serveError | ⟨⟨⟩, report⟩ <;> rcases stopResult with restoreError | state
  · exact adds_fail hbal
  · exact adds_fail hbal
  · exact adds_fail hbal
  · exact adds_pure hbal

theorem adds_spawnListener (rt : ManagedMixedRuntime) (s : ω) :
    Adds calls s (ManagedMixedSession.spawnListener listeners.outside session.listener rt)
      fun out _ after => (∃ thread, out = .ok thread) ∧
        HeldBy session.systemProxyGuard after := by
  intro hist
  refine ⟨[], (List.append_nil hist).symm, ⟨_, rfl⟩, ?_⟩
  rw [List.append_nil]
  exact h

theorem adds_spawnBackground (s : ω) :
    Adds calls s (session.spawnBackground listeners.outside :
        Program (ω × List ProxyCall) String (BackgroundHandle δ τ τ'))
      fun out _ after => HoldsProxy (·.systemProxyGuard) out after := by
  unfold ManagedMixedSession.spawnBackground
  refine adds_bind (adds_spawnListener listeners h session.runtime s) ?_ ?_
  · rintro thread s' after ⟨-, hheld⟩
    exact adds_pure hheld
  · rintro error s' after ⟨⟨thread, hthread⟩, -⟩
    cases hthread

theorem adds_startTunOrRestore (tunDevice : Option TunDeviceConfig) (s : ω) :
    Adds calls s (session.startTunOrRestore (recordingProxy ctrl) (outsideTun tunCtrl)
      threads.outside ipText tunDevice) fun out _ after =>
        HoldsProxy (fun _ => session.systemProxyGuard) out after := by
  unfold ManagedMixedSession.startTunOrRestore
  cases tunDevice with
  | none => exact adds_pure h
  | some cfg =>
    refine adds_attempt_bind (adds_of_keeps (fun hist =>
      (tunKeeps_outside tunCtrl threads hist).startBackground ipText cfg) calls s) ?_
    rintro started s₁ after rfl
    cases started with
    | ok tunRuntime => exact adds_pure h
    | error error =>
      refine adds_bind (adds_restoreOptional ctrl h s₁) ?_ fun _ _ _ hbal => hbal
      intro undone s₂ after hbal
      cases undone with
      | ok => exact adds_fail hbal
      | error restoreError => exact adds_fail hbal

theorem adds_spawnBackgroundTun (tunDevice : Option TunDeviceConfig) (s : ω) :
    Adds calls s (session.spawnBackgroundWithOptionalTunController listeners.outside
      (recordingProxy ctrl) (outsideTun tunCtrl) threads.outside ipText tunDevice)
      fun out _ after => HoldsProxy (·.systemProxyGuard) out after := by
  unfold ManagedMixedSession.spawnBackgroundWithOptionalTunController
  refine adds_bind (adds_startTunOrRestore ipText ctrl tunCtrl threads h tunDevice s) ?_
    fun _ _ _ hbal => hbal
  intro tunRuntime s₁ after hheld
  refine adds_bind (adds_spawnListener listeners hheld session.runtime s₁) ?_ ?_
  · rintro thread s₂ after ⟨-, hheld⟩
    exact adds_pure hheld
  · rintro error s₂ after ⟨⟨thread, hthread⟩, -⟩
    cases hthread

end

theorem adds_stopTun (rt : Option (ManagedTunBackgroundRuntime τ')) (calls : List ProxyCall)
    (s : ω) :
    Adds calls s (BackgroundHandle.stopTun (outsideTun tunCtrl) threads.outside rt)
      fun out _ after => (∃ res, out = .ok res) ∧ after = calls := by
  cases rt with
  | none => exact adds_pure ⟨⟨_, rfl⟩, rfl⟩
  | some rt =>
    unfold BackgroundHandle.stopTun
    refine adds_attempt_bind (adds_of_keeps (fun hist =>
      (tunKeeps_outside tunCtrl threads hist).stopBackground rt) calls s) ?_
    rintro report s' after rfl
    exact adds_pure ⟨⟨_, rfl⟩, rfl⟩

theorem adds_handleStop {handle : BackgroundHandle δ τ τ'} {calls : List ProxyCall}
    (h : HeldBy handle.systemProxyGuard calls) (drain : RuntimeManagedMixedStopDrainDiagnostic → δ)
    (tunNote : ManagedTunPacketLoopReport S → String × δ) (s : ω) :
    Adds calls s (handle.stop listeners.outside (recordingProxy ctrl)
      (outsideTun tunCtrl) threads.outside drain tunNote now) fun _ _ after =>
        ProxyBalanced after := by
  unfold BackgroundHandle.stop
  refine adds_attempt_bind (adds_outside (listeners.join handle.thread)) ?_
  rintro joinResult s₁ after ⟨-, rfl⟩
  refine adds_bind (adds_stopTun tunCtrl threads handle.tunRuntime after s₁) ?_ ?_
  · -- neither the thread nor the device keeps the proxy from being restored
    rintro tunResult s₂ after ⟨-, rfl⟩
    refine adds_bind (adds_restoreOptional ctrl h s₂) ?_ fun _ _ _ hbal => hbal
    intro undone s₃ after hbal
    dsimp only
    split
    · exact adds_pure hbal
    · exact adds_fail hbal
  · rintro error s₂ after ⟨⟨_, heq⟩, -⟩
    cases heq

def EndsBalanced (drain : RuntimeManagedMixedStopDrainDiagnostic → δ)
    (tunNote : ManagedTunPacketLoopReport S → String × δ) (earlier : List ProxyCall) :
    Except String (BackgroundHandle δ τ τ') × ω × List ProxyCall → Prop
  | (.error _, _, calls) => ProxyBalanced (earlier ++ calls)
  | (.ok handle, _, calls) => ∀ (current : ManagedMixedHandle δ) (stopped : ω),
      ProxyBalanced (earlier ++ calls ++ ((handle.during current).stop listeners.outside
        (recordingProxy ctrl) (outsideTun tunCtrl) threads.outside drain tunNote
        now).added stopped)

theorem endsBalanced_of_adds (drain : RuntimeManagedMixedStopDrainDiagnostic → δ)
    (tunNote : ManagedTunPacketLoopReport S → String × δ) {earlier : List ProxyCall} {s : ω}
    {prog : Program (ω × List ProxyCall) String (BackgroundHandle δ τ τ')}
    (h : Adds earlier s prog fun out _ after => HoldsProxy (·.systemProxyGuard) out after) :
    EndsBalanced listeners ctrl tunCtrl threads now drain tunNote earlier
      (prog (s, [])) := by
  have hrun := h.run
  unfold added at hrun
  rcases hprogram : prog (s, []) with ⟨error | handle, s', calls⟩
  · rw [hprogram] at hrun
    exact hrun
  · rw [hprogram] at hrun
    intro cur stopped
    have hheld : HeldBy (handle.during cur).systemProxyGuard (earlier ++ calls) := hrun
    exact (adds_handleStop listeners ctrl tunCtrl threads now hheld drain tunNote
      stopped).run

/-- When the session has ended, what `apply` returned has been restored once, and nothing else
was. -/
theorem system_proxy_balance (env : CoreEnvironment) (listeners : MixedListeners ω L τ)
    (ctrl : SystemProxyController ω) (tunCtrl : TunPacketIoController ω ι)
    (threads : PacketThreads ω ι τ' S) (drain : RuntimeManagedMixedStopDrainDiagnostic → δ)
    (tunNote : ManagedTunPacketLoopReport S → String × δ) :
    (∀ options configText now handles s,
      match (startFromSubscriptionConfigText env listeners.outside (recordingProxy ctrl)
          options configText now handles (s, []) :
          Except String (ManagedMixedSession δ L) × ω × List ProxyCall) with
      | (.error _, _, calls) => ProxyBalanced calls
      | (.ok session, _, calls) => ∀ now later,
          ProxyBalanced (calls ++ (session.stop (recordingProxy ctrl) now).added later) ∧
          (∀ once, ProxyBalanced (calls ++
            (session.serve listeners.outside (recordingProxy ctrl) now once).added later)) ∧
          (∀ ipText once tunDevice, ProxyBalanced (calls ++
            (session.serveWithOptionalTunControllerReport listeners.outside
              (recordingProxy ctrl) (outsideTun tunCtrl) threads.outside now ipText
              tunNote once tunDevice).added later)) ∧
          EndsBalanced listeners ctrl tunCtrl threads now drain tunNote calls
            (session.spawnBackground listeners.outside (later, [])) ∧
          (∀ ipText tunDevice,
            EndsBalanced listeners ctrl tunCtrl threads now drain tunNote calls
              (session.spawnBackgroundWithOptionalTunController listeners.outside
                (recordingProxy ctrl) (outsideTun tunCtrl) threads.outside ipText
                tunDevice (later, [])))) ∧
    (∀ ipText listen once runtime bypass s,
      ProxyBalanced ((listenMixedWithSystemProxyController ipText listeners.outside
        (recordingProxy ctrl) listen once runtime bypass).added s)) := by
  constructor
  · intro options configText now handles s
    have hstart := adds_startSession (δ := δ) env listeners ctrl now options configText handles s
    rcases hrun : (startFromSubscriptionConfigText env listeners.outside
      (recordingProxy ctrl) options configText now handles (s, []) :
        Except String (ManagedMixedSession δ L) × ω × List ProxyCall) with
      ⟨error | session, s', calls⟩
    · exact hstart.of_run hrun
    · intro now later
      have hheld : HeldBy session.systemProxyGuard calls := hstart.of_run hrun
      refine ⟨(adds_sessionStop ctrl now hheld later).run, ?_, ?_, ?_, ?_⟩
      · intro once
        exact (adds_sessionServe listeners ctrl now hheld once later).run
      · intro ipText once tunDevice
        exact (adds_sessionServeReport ipText listeners ctrl tunCtrl threads now hheld
          tunNote once tunDevice later).run
      · exact endsBalanced_of_adds listeners ctrl tunCtrl threads now drain tunNote
          (adds_spawnBackground listeners hheld later)
      · intro ipText tunDevice
        exact endsBalanced_of_adds listeners ctrl tunCtrl threads now drain tunNote
          (adds_spawnBackgroundTun ipText listeners ctrl tunCtrl threads hheld tunDevice
            later)
  · intro ipText listen once runtime bypass s
    exact (adds_listenMixed ipText listeners ctrl listen once runtime bypass s).run

end KeliNative.Client
