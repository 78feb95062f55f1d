import KeliNative.Client.TunGuard
import KeliNative.Lib.Recorded

/-!
# The TUN device is stopped by whoever started it

A device that is started is stopped exactly once, with two exceptions.
-/

namespace KeliNative.Client
open Platform Program List

variable {ω ι τ S α : Type}

inductive TunCall where
  | snapshot (answer : Except TunDeviceError TunDeviceSnapshot)
  | start (config : TunDeviceConfig) (answer : Except TunDeviceError TunDeviceSnapshot)
  | stop (answer : Except TunDeviceError TunDeviceSnapshot)
  | openPacketIo (config : TunDeviceConfig) (opened : Bool)
  deriving DecidableEq

/-- The controller, with a record of what it was asked and what it answered. -/
def recordingTun (ctrl : TunPacketIoController ω ι) :
    TunPacketIoController (ω × List TunCall) ι where
  snapshot := ctrl.snapshot.recorded fun answer => [.snapshot answer]
  start config := (ctrl.start config).recorded fun answer => [.start config answer]
  stop := ctrl.stop.recorded fun answer => [.stop answer]
  openPacketIo config :=
    (ctrl.openPacketIo config).recorded fun answer => [.openPacketIo config answer.isOk]

def PacketThreads.outside {E : Type} (threads : PacketThreads ω ι τ S) :
    PacketThreads (ω × List E) ι τ S where
  spawn io config s := ((threads.spawn io config s.1).1, (threads.spawn io config s.1).2, s.2)
  join thread := (threads.join thread).outside

def TunCall.custody : TunCall → Option (Custody Unit)
  | .start _ (.ok _) => some (.acquire ())
  | .stop _ => some (.release ())
  | _ => none

/-- Every successful start is followed by exactly one stop, and there are no other stops. -/
def TunBalanced (calls : List TunCall) : Prop :=
  Custody.Balanced (calls.filterMap TunCall.custody)

def IsAsked (config : TunDeviceConfig) (snapshot : TunDeviceSnapshot) : Prop :=
  snapshot.running = true ∧ tunSnapshotMatchesConfig snapshot config = true

instance (config : TunDeviceConfig) (snapshot : TunDeviceSnapshot) :
    Decidable (IsAsked config snapshot) := inferInstanceAs (Decidable (_ ∧ _))

def StartsAsAsked (calls : List TunCall) : Prop :=
  ∀ config snapshot, .start config (.ok snapshot) ∈ calls → IsAsked config snapshot

def SparesRunning (calls : List TunCall) : Prop :=
  ∀ snapshot, .snapshot (.ok snapshot) ∈ calls → snapshot.running = true →
    ∀ answer, .stop answer ∉ calls

structure Settled (calls : List TunCall) : Prop where
  balanced : TunBalanced calls ↔ StartsAsAsked calls
  spares : SparesRunning calls

/-- What holds while a device is in use, by a start of ours or not. -/
structure InUse (ownsDevice : Bool) (calls : List TunCall) : Prop where
  custody : calls.filterMap TunCall.custody = if ownsDevice then [.acquire ()] else []
  asked : StartsAsAsked calls
  fresh : ownsDevice = true →
    ∀ snapshot, .snapshot (.ok snapshot) ∈ calls → snapshot.running = false

theorem no_stop_of_custody {calls : List TunCall} (h : .release () ∉ calls.filterMap TunCall.custody)
    (answer : Except TunDeviceError TunDeviceSnapshot) : .stop answer ∉ calls :=
  fun hmem => h (mem_filterMap.mpr ⟨_, hmem, rfl⟩)

theorem InUse.no_stop {ownsDevice : Bool} {calls : List TunCall} (h : InUse ownsDevice calls)
    (answer : Except TunDeviceError TunDeviceSnapshot) : .stop answer ∉ calls := by
  refine no_stop_of_custody ?_ answer
  rw [h.custody]
  cases ownsDevice <;> simp

theorem InUse.opened {ownsDevice : Bool} {calls : List TunCall} (h : InUse ownsDevice calls)
    (config : TunDeviceConfig) (opened : Bool) :
    InUse ownsDevice (calls ++ [.openPacketIo config opened]) where
  custody := by
    rw [filterMap_append, h.custody]
    exact append_nil _
  asked := by
    intro other snapshot hmem
    rcases mem_append.mp hmem with hmem | hmem
    · exact h.asked other snapshot hmem
    · cases mem_singleton.mp hmem
  fresh := by
    intro howns snapshot hmem
    rcases mem_append.mp hmem with hmem | hmem
    · exact h.fresh howns snapshot hmem
    · cases mem_singleton.mp hmem

/-- What holds after a device in use was stopped, or was not ours to stop. -/
structure Ended (calls : List TunCall) : Prop where
  balanced : TunBalanced calls
  asked : StartsAsAsked calls
  spares : SparesRunning calls

theorem Ended.settled {calls : List TunCall} (h : Ended calls) : Settled calls :=
  ⟨iff_of_true h.balanced h.asked, h.spares⟩

theorem InUse.stopped {calls : List TunCall} (h : InUse true calls)
    (answer : Except TunDeviceError TunDeviceSnapshot) : Ended (calls ++ [.stop answer]) where
  balanced := by
    unfold TunBalanced
    rw [filterMap_append, h.custody]
    exact Custody.balanced_pair ()
  asked := by
    intro config snapshot hmem
    rcases mem_append.mp hmem with hmem | hmem
    · exact h.asked config snapshot hmem
    · cases mem_singleton.mp hmem
  spares := by
    intro snapshot hmem hrunning
    rcases mem_append.mp hmem with hmem | hmem
    · rw [h.fresh rfl snapshot hmem] at hrunning
      cases hrunning
    · cases mem_singleton.mp hmem

theorem InUse.left {calls : List TunCall} (h : InUse false calls) : Ended calls where
  balanced := by
    unfold TunBalanced
    rw [h.custody]
    exact Custody.balanced_nil
  asked := h.asked
  spares := fun _ _ _ => h.no_stop

theorem InUse.not_balanced {calls : List TunCall} (h : InUse true calls) : ¬ TunBalanced calls := by
  unfold TunBalanced
  rw [h.custody]
  exact Custody.not_balanced_acquire ()

theorem settled_nil : Settled [] where
  balanced := iff_of_true Custody.balanced_nil fun _ _ hmem => absurd hmem not_mem_nil
  spares := fun _ hmem => absurd hmem not_mem_nil

section

variable (answer : Except TunDeviceError TunDeviceSnapshot)

include answer

theorem settled_snapshot : Settled [.snapshot answer] where
  balanced := by
    refine iff_of_true Custody.balanced_nil ?_
    intro config snapshot hmem
    cases mem_singleton.mp hmem
  spares := fun _ _ _ => no_stop_of_custody not_mem_nil

theorem settled_startFailed (config : TunDeviceConfig) (error : TunDeviceError) :
    Settled [.snapshot answer, .start config (.error error)] where
  balanced := by
    refine iff_of_true Custody.balanced_nil ?_
    intro other snapshot hmem
    simp at hmem
  spares := fun _ _ _ => no_stop_of_custody not_mem_nil

theorem settled_startedOther {config : TunDeviceConfig} {snapshot : TunDeviceSnapshot}
    (h : ¬ IsAsked config snapshot) : Settled [.snapshot answer, .start config (.ok snapshot)] where
  balanced := by
    refine iff_of_false (Custody.not_balanced_acquire ()) fun hasked => h ?_
    exact hasked config snapshot (mem_cons_of_mem _ (mem_singleton_self _))
  spares := by
    intro _ _ _
    refine no_stop_of_custody ?_
    change _ ∉ [Custody.acquire ()]
    simp

end

theorem inUse_nil : InUse false [] where
  custody := rfl
  asked := fun _ _ hmem => absurd hmem not_mem_nil
  fresh := fun _ _ hmem => absurd hmem not_mem_nil

theorem inUse_running {snapshot : TunDeviceSnapshot} : InUse false [.snapshot (.ok snapshot)] where
  custody := rfl
  asked := by
    intro config other hmem
    cases mem_singleton.mp hmem
  fresh := nofun

theorem inUse_started {seen snapshot : TunDeviceSnapshot} {config : TunDeviceConfig}
    (hseen : seen.running = false) (h : IsAsked config snapshot) :
    InUse true [.snapshot (.ok seen), .start config (.ok snapshot)] where
  custody := rfl
  asked := by
    intro other started hmem
    rcases mem_cons.mp hmem with hmem | hmem
    · cases hmem
    · cases mem_singleton.mp hmem
      exact h
  fresh := by
    rintro - other hmem
    rcases mem_cons.mp hmem with hmem | hmem
    · cases hmem
      exact hseen
    · cases mem_singleton.mp hmem

def UsesDevice (ownsDevice : α → Bool) : Except String α → List TunCall → Prop :=
  Outcome (fun value calls => InUse (ownsDevice value) calls) fun _ calls => Settled calls

section

variable (ctrl : TunPacketIoController ω ι) (config : TunDeviceConfig) (s : ω)
  (calls : List TunCall)

theorem adds_snapshotCall : Adds calls s (recordingTun ctrl).snapshot fun answer _ now =>
    now = calls ++ [.snapshot answer] :=
  (adds_recorded ctrl.snapshot _).mono fun _ _ _ h => h.2

theorem adds_startCall : Adds calls s ((recordingTun ctrl).start config) fun answer _ now =>
    now = calls ++ [.start config answer] :=
  (adds_recorded (ctrl.start config) _).mono fun _ _ _ h => h.2

theorem adds_stopCall : Adds calls s (recordingTun ctrl).stop fun answer _ now =>
    now = calls ++ [.stop answer] :=
  (adds_recorded ctrl.stop _).mono fun _ _ _ h => h.2

theorem adds_openCall : Adds calls s ((recordingTun ctrl).openPacketIo config)
    fun answer _ now => now = calls ++ [.openPacketIo config answer.isOk] :=
  (adds_recorded (ctrl.openPacketIo config) _).mono fun _ _ _ h => h.2

end

variable (ipText : IpText) (ctrl : TunPacketIoController ω ι)
  (threads : PacketThreads ω ι τ S)

theorem adds_startTunDevice (config : TunDeviceConfig) (s : ω) {seen : TunDeviceSnapshot}
    (hseen : seen.running = false) :
    Adds [.snapshot (.ok seen)] s (startTunDevice (recordingTun ctrl) config)
      fun out _ now => UsesDevice (·.ownsDevice) out now := by
  refine adds_bind (adds_mapError _ (adds_startCall ctrl config s _)) ?_ ?_
  · rintro snapshot s' now ⟨answer, hansw, rfl⟩
    rw [mapError_eq_ok hansw.symm]
    have hother (h : ¬ IsAsked config snapshot) :
        Settled [.snapshot (.ok seen), .start config (.ok snapshot)] := settled_startedOther _ h
    refine adds_ite (fun hrunning => ?_) fun hrunning => adds_ite (fun hmatch => ?_) fun hmatch => ?_
    · exact adds_fail (hother fun h => by simp [h.1] at hrunning)
    · exact adds_fail (hother fun h => by simp [h.2] at hmatch)
    · refine adds_pure (inUse_started hseen ⟨?_, ?_⟩)
      · simpa using hrunning
      · simpa using hmatch
  · rintro error s' now ⟨answer, hansw, rfl⟩
    cases answer with
    | ok snapshot => cases hansw
    | error tunError => exact settled_startFailed (.ok seen) config tunError

theorem ofAnswer_cases (config : TunDeviceConfig)
    (answer : Except TunDeviceError TunDeviceSnapshot) :
    let preflight := TunDevicePreflight.ofAnswer config answer
    preflight.ready = false ∨
      (preflight.ready = true ∧ ∃ snapshot, answer = .ok snapshot ∧
        (preflight.readiness = .alreadyRunning ∨
          (preflight.readiness = .ready ∧ snapshot.running = false))) := by
  intro preflight
  subst preflight
  cases answer with
  | error error => cases error <;> exact .inl rfl
  | ok snapshot =>
    simp only [TunDevicePreflight.ofAnswer, TunDevicePreflight.fromParts]
    cases hreadiness : tunReadinessFromSnapshot snapshot config
    case alreadyRunning => exact .inr ⟨rfl, snapshot, rfl, .inl rfl⟩
    case ready => exact .inr ⟨rfl, snapshot, rfl, .inr ⟨rfl, not_running_of_ready hreadiness⟩⟩
    all_goals exact .inl rfl

theorem adds_check {config : TunDeviceConfig} (hvalid : config.validate ipText = .ok ()) (s : ω) :
    Adds [] s (TunDevicePreflight.check ipText (recordingTun ctrl) config :
        Program (ω × List TunCall) String TunDevicePreflight) fun out _ now =>
      ∃ answer, out = .ok (.ofAnswer config answer) ∧ now = [.snapshot answer] := by
  unfold TunDevicePreflight.check
  rw [hvalid]
  refine adds_attempt_bind (adds_snapshotCall ctrl s []) ?_
  rintro answer s' now rfl
  exact adds_pure ⟨answer, rfl, rfl⟩

theorem adds_apply (config : TunDeviceConfig) (s : ω) :
    Adds [] s (applyTunDeviceForConfig ipText (recordingTun ctrl) config)
      fun out _ now => UsesDevice (·.ownsDevice) out now := by
  cases hvalid : config.validate ipText with
  | error error =>
    unfold applyTunDeviceForConfig TunDevicePreflight.check
    rw [hvalid]
    exact adds_fail settled_nil
  | ok =>
    unfold applyTunDeviceForConfig
    refine adds_bind (adds_check ipText ctrl hvalid s) ?_ ?_
    · rintro preflight s' now ⟨answer, heq, rfl⟩
      cases heq
      rcases ofAnswer_cases config answer with
        hready | ⟨hready, snapshot, rfl, hreadiness | ⟨hreadiness, hrunning⟩⟩
      · simp only [hready, Bool.not_false, if_true]
        exact adds_fail (settled_snapshot answer)
      · simp only [hready, Bool.not_true, Bool.false_eq_true, if_false, hreadiness]
        exact adds_pure inUse_running
      · simp only [hready, Bool.not_true, Bool.false_eq_true, if_false, hreadiness]
        exact adds_startTunDevice ctrl config s' hrunning
    · rintro error s' now ⟨answer, heq, -⟩
      cases heq

theorem adds_stopTunDevice {calls : List TunCall} (h : InUse true calls) (s : ω) :
    Adds calls s (stopTunDevice (recordingTun ctrl)) fun _ _ now => Ended now := by
  refine (adds_mapError _ (adds_stopCall ctrl s calls)).mono ?_
  rintro out s' now ⟨answer, -, rfl⟩
  exact h.stopped answer

theorem adds_guardStop {guard : ManagedTunDeviceGuard} {calls : List TunCall}
    (h : InUse guard.ownsDevice calls) (s : ω) :
    Adds calls s (guard.stop (recordingTun ctrl)) fun _ _ now => Ended now := by
  unfold ManagedTunDeviceGuard.stop
  cases howns : guard.ownsDevice with
  | false =>
    rw [howns] at h
    exact adds_pure h.left
  | true =>
    rw [howns] at h
    exact adds_stopTunDevice ctrl h s

def ownsOptional (guard : Option ManagedTunDeviceGuard) : Bool := guard.elim false (·.ownsDevice)

theorem adds_applyOptional (config : Option TunDeviceConfig) (s : ω) :
    Adds [] s (applyOptional ipText (recordingTun ctrl) config) fun out _ now =>
      UsesDevice ownsOptional out now := by
  cases config with
  | none => exact adds_pure inUse_nil
  | some config =>
    unfold applyOptional
    refine adds_bind (adds_apply ipText ctrl config s) ?_ fun _ _ _ hsettled => hsettled
    intro guard s' now hguard
    exact adds_pure hguard

theorem adds_stopOptional {guard : Option ManagedTunDeviceGuard} {calls : List TunCall}
    (h : InUse (ownsOptional guard) calls) (s : ω) :
    Adds calls s (stopOptional (recordingTun ctrl) guard) fun _ _ now => Settled now := by
  cases guard with
  | none => exact adds_pure h.left.settled
  | some guard =>
    unfold stopOptional
    refine adds_attempt_bind (adds_guardStop ctrl h s) ?_
    intro out s' now hended
    exact adds_pure hended.settled

theorem adds_runWithOptionalTunDevice (config : Option TunDeviceConfig)
    (run : Program ω String Unit) (s : ω) :
    Adds [] s (runWithOptionalTunDevice ipText (recordingTun ctrl) config run.outside)
      fun _ _ now => Settled now := by
  unfold runWithOptionalTunDevice
  refine adds_bind (adds_applyOptional ipText ctrl config s) ?_ fun _ _ _ h => h
  intro guard s' now hguard
  refine adds_attempt_bind (adds_outside run) ?_
  rintro runResult s'' now' ⟨-, rfl⟩
  refine adds_bind (adds_stopOptional ctrl hguard s'') ?_ fun _ _ _ h => h
  intro stopResult _ _ hsettled
  rcases runResult with runError | _ <;> rcases stopResult with stopError | _
  · exact adds_fail hsettled
  · exact adds_fail hsettled
  · exact adds_fail hsettled
  · exact adds_pure hsettled

theorem adds_openPacketIoOrStop (config : TunDeviceConfig) {ownsDevice : Bool}
    {calls : List TunCall} (h : InUse ownsDevice calls) (s : ω) :
    Adds calls s (openPacketIoOrStop (recordingTun ctrl) config ownsDevice)
      fun out _ now => UsesDevice (fun _ => ownsDevice) out now := by
  unfold openPacketIoOrStop
  refine adds_attempt_bind (adds_openCall ctrl config s calls) ?_
  rintro answer s' now rfl
  have hopn := h.opened config answer.isOk
  cases answer with
  | ok io => exact adds_pure hopn
  | error error =>
    cases ownsDevice with
    | false => exact adds_fail hopn.left.settled
    | true =>
      dsimp only
      rw [if_pos rfl]
      refine adds_attempt_bind (adds_stopTunDevice ctrl hopn s') ?_
      intro stopResult _ _ hended
      cases stopResult with
      | ok => exact adds_fail hended.settled
      | error => exact adds_fail hended.settled

theorem adds_spawnPacketLoop (io : ι) (config : TunDeviceConfig) (calls : List TunCall) (s : ω) :
    Adds calls s (spawnPacketLoop threads.outside io config) fun out _ now =>
      (∃ thread, out = .ok thread) ∧ now = calls :=
  fun hist => ⟨[], (append_nil hist).symm, ⟨_, rfl⟩, append_nil calls⟩

theorem adds_openAndSpawn {guard : Option ManagedTunDeviceGuard} {calls : List TunCall}
    (h : InUse (ownsOptional guard) calls) (s : ω) :
    Adds calls s (openAndSpawn (recordingTun ctrl) threads.outside guard)
      fun out _ now => UsesDevice (fun _ => ownsOptional guard) out now := by
  cases guard with
  | none => exact adds_pure h
  | some guard =>
    unfold openAndSpawn
    refine adds_bind (adds_openPacketIoOrStop ctrl guard.config h s) ?_ fun _ _ _ h => h
    intro io s' now hio
    refine adds_bind (adds_spawnPacketLoop threads io guard.config now s') ?_ ?_
    · rintro thread s'' now' ⟨-, rfl⟩
      exact adds_pure hio
    · rintro error s'' now' ⟨⟨thread, hthread⟩, -⟩
      cases hthread

theorem adds_joinOptional (thread : Option τ) (calls : List TunCall) (s : ω) :
    Adds calls s (joinOptional threads.outside thread) fun out _ now =>
      (∃ summary, out = .ok summary) ∧ now = calls := by
  cases thread with
  | none => exact adds_pure ⟨⟨_, rfl⟩, rfl⟩
  | some thread =>
    unfold joinOptional
    refine adds_attempt_bind (adds_outside (threads.join thread)) ?_
    rintro res s' now ⟨-, rfl⟩
    exact adds_pure ⟨⟨_, rfl⟩, rfl⟩

theorem adds_backgroundReport (config : Option TunDeviceConfig) (run : Program ω String α) (s : ω) :
    Adds [] s (runWithOptionalTunRuntimeBackgroundReport ipText (recordingTun ctrl)
      threads.outside config run.outside) fun _ _ now => Settled now := by
  unfold runWithOptionalTunRuntimeBackgroundReport
  refine adds_bind (adds_applyOptional ipText ctrl config s) ?_ fun _ _ _ h => h
  intro guard s₁ now hguard
  refine adds_bind (adds_openAndSpawn ctrl threads hguard s₁) ?_ fun _ _ _ h => h
  intro thread s₂ now hthread
  refine adds_attempt_bind (adds_outside run) ?_
  rintro runResult s₃ now ⟨-, rfl⟩
  refine adds_bind (adds_joinOptional threads thread now s₃) ?_ ?_
  · -- the device is stopped whatever the closure and the thread came to
    rintro summaryResult s₄ now ⟨-, rfl⟩
    refine adds_bind (adds_stopOptional ctrl hthread s₄) ?_ fun _ _ _ h => h
    intro stopResult _ _ hsettled
    split
    · exact adds_pure hsettled
    · exact adds_fail hsettled
  · rintro error s₄ now ⟨⟨_, heq⟩, -⟩
    cases heq

theorem adds_startBackground (config : TunDeviceConfig) (s : ω) :
    Adds [] s (startManagedTunBackgroundRuntime ipText (recordingTun ctrl) threads.outside
      config) fun out _ now => UsesDevice (·.ownsDevice) out now := by
  unfold startManagedTunBackgroundRuntime
  refine adds_bind (adds_apply ipText ctrl config s) ?_ fun _ _ _ h => h
  intro guard s₁ now hguard
  refine adds_bind (adds_openPacketIoOrStop ctrl guard.config hguard s₁) ?_ fun _ _ _ h => h
  intro io s₂ now hio
  refine adds_bind (adds_spawnPacketLoop threads io guard.config now s₂) ?_ ?_
  · rintro thread s₃ now ⟨-, rfl⟩
    exact adds_pure hio
  · rintro error s₃ now ⟨⟨thread, hthread⟩, -⟩
    cases hthread

def ThreadEndsWell (thread : τ) (s : ω) : Prop :=
  ∃ summary, (threads.join thread s).1 = .ok (.ok summary)

theorem adds_backgroundStop {rt : ManagedTunBackgroundRuntime τ} {calls : List TunCall}
    (h : InUse rt.ownsDevice calls) (s : ω) :
    Adds calls s (rt.stop (recordingTun ctrl) threads.outside) fun _ _ now =>
      (TunBalanced now ↔ (rt.ownsDevice = true → ThreadEndsWell threads rt.thread s)) ∧
        SparesRunning now := by
  unfold ManagedTunBackgroundRuntime.stop
  refine adds_attempt_bind (adds_outside (threads.join rt.thread)) ?_
  rintro res s' now ⟨hres, rfl⟩
  have hends : ThreadEndsWell threads rt.thread s ↔ ∃ summary, res = .ok (.ok summary) := by
    unfold ThreadEndsWell
    rw [← hres]
  -- the two ways in which the thread keeps the device from being stopped
  have hfail (hnot : ¬ ∃ summary, res = .ok (.ok summary)) :
      (TunBalanced now ↔
        (rt.ownsDevice = true → ThreadEndsWell threads rt.thread s)) ∧
        SparesRunning now := by
    rw [hends]
    cases howns : rt.ownsDevice with
    | false =>
      rw [howns] at h
      exact ⟨iff_of_true h.left.balanced nofun, h.left.spares⟩
    | true =>
      rw [howns] at h
      exact ⟨iff_of_false h.not_balanced fun hwell => hnot (hwell rfl), fun _ _ _ => h.no_stop⟩
  rcases res with ⟨⟩ | error | summary
  · exact adds_fail (hfail nofun)
  · exact adds_fail (hfail nofun)
  · have hwell : ThreadEndsWell threads rt.thread s := hends.mpr ⟨summary, rfl⟩
    have hstop : Adds now s' (rt.stopDevice (recordingTun ctrl))
        fun _ _ now => Ended now := by
      unfold ManagedTunBackgroundRuntime.stopDevice
      cases howns : rt.ownsDevice with
      | false =>
        rw [howns] at h
        exact adds_pure h.left
      | true =>
        rw [howns] at h
        exact adds_stopTunDevice ctrl h s'
    have hclosed (calls : List TunCall) (hended : Ended calls) :
        (TunBalanced calls ↔
          (rt.ownsDevice = true → ThreadEndsWell threads rt.thread s)) ∧
          SparesRunning calls :=
      ⟨iff_of_true hended.balanced fun _ => hwell, hended.spares⟩
    refine adds_ofExcept_bind ?_ (fun _ heq => by cases heq)
    rintro _ ⟨⟩
    refine adds_bind hstop ?_ fun _ _ calls => hclosed calls
    intro snapshot s'' calls hended
    exact adds_pure (hclosed calls hended)

/-- What is started is stopped exactly once, if and only if `start` never reports another device
than the one asked for. -/
theorem tun_start_stop_balance (ipText : IpText) (ctrl : TunPacketIoController ω ι)
    (threads : PacketThreads ω ι τ S) :
    (∀ config (run : Program ω String Unit) s,
      Settled ((runWithOptionalTunDevice ipText (recordingTun ctrl) config
        run.outside).added s)) ∧
    (∀ (α : Type) config (run : Program ω String α) s,
      Settled ((runWithOptionalTunRuntimeBackgroundReport ipText (recordingTun ctrl)
        threads.outside config run.outside).added s)) ∧
    (∀ config s, match applyTunDeviceForConfig ipText (recordingTun ctrl) config (s, []) with
      | (.error _, _, calls) => Settled calls
      | (.ok guard, _, calls) => ∀ later,
          let calls := calls ++ (guard.stop (recordingTun ctrl)).added later
          TunBalanced calls ∧ SparesRunning calls) ∧
    (∀ config s, match startManagedTunBackgroundRuntime ipText (recordingTun ctrl)
        threads.outside config (s, []) with
      | (.error _, _, calls) => Settled calls
      | (.ok runtime, _, calls) => ∀ later,
          let calls := calls ++ (runtime.stop (recordingTun ctrl) threads.outside).added later
          (TunBalanced calls ↔
            (runtime.ownsDevice = true → ThreadEndsWell threads runtime.thread later)) ∧
          SparesRunning calls) := by
  refine ⟨?_, ?_, ?_, ?_⟩
  · intro config run s
    exact (adds_runWithOptionalTunDevice ipText ctrl config run s).run
  · intro α config run s
    exact (adds_backgroundReport ipText ctrl threads config run s).run
  · intro config s
    rcases hrun : applyTunDeviceForConfig ipText (recordingTun ctrl) config (s, []) with
      ⟨error | guard, s', calls⟩
    · exact (adds_apply ipText ctrl config s).of_run hrun
    · intro later
      have huses := (adds_apply ipText ctrl config s).of_run hrun
      have hended := (adds_guardStop ctrl huses later).run
      exact ⟨hended.balanced, hended.spares⟩
  · intro config s
    rcases hrun : startManagedTunBackgroundRuntime ipText (recordingTun ctrl)
      threads.outside config (s, []) with ⟨error | runtime, s', calls⟩
    · exact (adds_startBackground ipText ctrl threads config s).of_run hrun
    · intro later
      have huses := (adds_startBackground ipText ctrl threads config s).of_run hrun
      exact (adds_backgroundStop ctrl threads huses later).run

/-! A start that reports no running device, and a thread that panicked. -/

def tunConfig : TunDeviceConfig := ⟨"keli-tun0", "10.7.0.1/24", 1500, false⟩

def idleTunDevice : TunDeviceSnapshot := ⟨true, true, true, false, none, none, none, none⟩

/-- A controller whose device is idle, and that reports `started` for a start. -/
def answering (started : TunDeviceSnapshot) : TunPacketIoController Unit Unit where
  snapshot := .pure idleTunDevice
  start _ := .pure started
  stop := .pure idleTunDevice
  openPacketIo _ := .pure ()

def panickingThreads : PacketThreads Unit Unit Unit Unit where
  spawn _ _ s := ((), s)
  join _ := .fail ()

def backgroundRuntime : ManagedTunBackgroundRuntime Unit :=
  ⟨tunConfig, .ofRunning tunConfig, true, ()⟩

def backgroundCalls : List TunCall :=
  [.snapshot (.ok idleTunDevice), .start tunConfig (.ok (.ofRunning tunConfig)),
    .openPacketIo tunConfig true]

theorem started_device_not_stopped :
    (runWithOptionalTunDevice decimalIpText (recordingTun (answering idleTunDevice))
        (some tunConfig) (.pure ()) ((), []) =
      (.error "start TUN device did not report a running device", (),
        [.snapshot (.ok idleTunDevice), .start tunConfig (.ok idleTunDevice)])) ∧
    (startManagedTunBackgroundRuntime decimalIpText
        (recordingTun (answering (.ofRunning tunConfig))) panickingThreads.outside tunConfig
        ((), []) = (.ok backgroundRuntime, (), backgroundCalls) ∧
      backgroundRuntime.stop (recordingTun (answering (.ofRunning tunConfig)))
        panickingThreads.outside ((), backgroundCalls) =
          (.error "managed TUN packet loop thread panicked", (), backgroundCalls) ∧
      ¬ TunBalanced backgroundCalls) :=
  ⟨by decide +kernel, by decide +kernel, by decide +kernel, Custody.not_balanced_acquire ()⟩

end KeliNative.Client
