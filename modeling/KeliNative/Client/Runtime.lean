import KeliNative.Client.Preflight

/-!
# Client runtime (`ClientRuntime`, `keli-client-core/src/lib.rs`)

The state a client shows. Every change is an event of a bounded history.
-/

namespace KeliNative.Client
open Protocol List

structure SystemTime where
  nanos : ℕ
  deriving DecidableEq

inductive RuntimeStatus where
  | stopped
  | starting
  | running (generation : ℕ) (selectedOutbound listen : String)
  | reloading (generation : ℕ)
  | stopping (generation : ℕ)
  | failed (error : ClientErrorKind)
  deriving DecidableEq

def RuntimeStatus.error? : RuntimeStatus → Option ClientErrorKind
  | .failed error => some error
  | _ => none

/-- Diagnostics are carried along and never looked at: `δ` is their type. -/
structure RuntimeEvent (δ : Type) where
  status : RuntimeStatus
  note : Option String
  diagnostic : Option δ
  «at» : SystemTime
  deriving DecidableEq

structure ClientRuntime (δ : Type) where
  status : RuntimeStatus
  activePlan : Option ConnectionPlan
  activeConfig : Option RuntimeConfig
  generation : ℕ
  startedAt : Option SystemTime
  lastError : Option ClientErrorKind
  eventCount : ℕ
  events : List (RuntimeEvent δ)
  deriving DecidableEq

def defaultRuntimeEventHistoryLimit : ℕ := 256

namespace ClientRuntime

variable {δ : Type}

def initialEvent (created : SystemTime) : RuntimeEvent δ :=
  ⟨.stopped, some "runtime initialized", none, created⟩

def default (created : SystemTime) : ClientRuntime δ where
  status := .stopped
  activePlan := none
  activeConfig := none
  generation := 0
  startedAt := none
  lastError := none
  eventCount := 1
  events := [initialEvent created]

def pushEvent (event : RuntimeEvent δ) (runtime : ClientRuntime δ) : ClientRuntime δ :=
  let events := runtime.events ++ [event]
  { runtime with
    lastError := event.status.error? <|> runtime.lastError
    eventCount := runtime.eventCount + 1
    events := events.drop (events.length - defaultRuntimeEventHistoryLimit) }

def record (status : RuntimeStatus) (note : String) (time : SystemTime)
    (runtime : ClientRuntime δ) : ClientRuntime δ :=
  { runtime with status }.pushEvent ⟨status, some note, none, time⟩

def fail (error : ClientErrorKind) (time : SystemTime) (runtime : ClientRuntime δ) :
    ClientRuntime δ :=
  { runtime with
    activePlan := none
    activeConfig := none
    startedAt := none
    status := .failed error }.pushEvent ⟨.failed error, some "runtime failed", none, time⟩

/-- The fields set by a successful `start` or `reload`, and the event that tells of it. -/
def run (config : RuntimeConfig) (plan : ConnectionPlan) (startedAt : SystemTime) (note : String)
    (time : SystemTime) (runtime : ClientRuntime δ) : ClientRuntime δ :=
  let generation := runtime.generation + 1
  let status := .running generation plan.selectedOutbound plan.listen
  { runtime with
    generation
    startedAt := some startedAt
    status
    activePlan := some plan
    activeConfig := some config }.pushEvent ⟨status, some note, none, time⟩

def start (readers : Readers) (now : ℕ → SystemTime) (config : RuntimeConfig)
    (runtime : ClientRuntime δ) : Except ClientErrorKind ConnectionPlan × ClientRuntime δ :=
  let runtime := runtime.record .starting "runtime starting" (now 0)
  match config.plan readers with
  | .ok plan => (.ok plan, runtime.run config plan (now 1) "runtime running" (now 2))
  | .error error => (.error error, runtime.fail error (now 1))

def reload (readers : Readers) (now : ℕ → SystemTime) (config : RuntimeConfig)
    (previous : ClientRuntime δ) : Except ClientErrorKind ConnectionPlan × ClientRuntime δ :=
  let runtime := previous.record (.reloading previous.generation) "runtime reloading" (now 0)
  match config.plan readers with
  | .ok plan =>
      (.ok plan, runtime.run config plan (runtime.startedAt.getD (now 1)) "runtime reload applied"
        (now 2))
  | .error error =>
      (.error error, { runtime with
        status := previous.status
        activePlan := previous.activePlan
        activeConfig := previous.activeConfig }.pushEvent
          ⟨.failed error, some "runtime reload rejected", none, now 1⟩)

def stop (now : ℕ → SystemTime) (runtime : ClientRuntime δ) : ClientRuntime δ :=
  if runtime.status = .stopped then runtime
  else
    let runtime := runtime.record (.stopping runtime.generation) "runtime stopping" (now 0)
    { runtime with
      activePlan := none
      activeConfig := none
      startedAt := none
      status := .stopped }.pushEvent ⟨.stopped, some "runtime stopped", none, now 1⟩

def recordFailure (now : ℕ → SystemTime) (error : ClientErrorKind) (runtime : ClientRuntime δ) :
    ClientRuntime δ := runtime.fail error (now 0)

def recordControlRejected (now : ℕ → SystemTime) (error : ClientErrorKind) (note : String)
    (runtime : ClientRuntime δ) : ClientRuntime δ :=
  runtime.pushEvent ⟨.failed error, some note, none, now 0⟩

def recordReloadRejected (now : ℕ → SystemTime) (error : ClientErrorKind)
    (runtime : ClientRuntime δ) : ClientRuntime δ :=
  runtime.recordControlRejected now error "runtime reload rejected"

def recordStatusNote (now : ℕ → SystemTime) (note : String) (runtime : ClientRuntime δ) :
    ClientRuntime δ := runtime.pushEvent ⟨runtime.status, some note, none, now 0⟩

def recordStatusDiagnostic (now : ℕ → SystemTime) (note : String) (diagnostic : δ)
    (runtime : ClientRuntime δ) : ClientRuntime δ :=
  runtime.pushEvent ⟨runtime.status, some note, some diagnostic, now 0⟩

end ClientRuntime

inductive RuntimeCall (δ : Type) where
  | start (config : RuntimeConfig)
  | reload (config : RuntimeConfig)
  | stop
  | recordFailure (error : ClientErrorKind)
  | recordReloadRejected (error : ClientErrorKind)
  | recordControlRejected (error : ClientErrorKind) (note : String)
  | recordStatusNote (note : String)
  | recordStatusDiagnostic (note : String) (diagnostic : δ)

namespace ClientRuntime

variable {δ : Type}

/-- One call. Only `start` and `reload` can fail, and only they return a plan. -/
def call (readers : Readers) (now : ℕ → SystemTime) (runtime : ClientRuntime δ) :
    RuntimeCall δ → Except ClientErrorKind (Option ConnectionPlan) × ClientRuntime δ
  | .start config => (runtime.start readers now config).map (Except.map some) id
  | .reload config => (runtime.reload readers now config).map (Except.map some) id
  | .stop => (.ok none, runtime.stop now)
  | .recordFailure error => (.ok none, runtime.recordFailure now error)
  | .recordReloadRejected error => (.ok none, runtime.recordReloadRejected now error)
  | .recordControlRejected error note => (.ok none, runtime.recordControlRejected now error note)
  | .recordStatusNote note => (.ok none, runtime.recordStatusNote now note)
  | .recordStatusDiagnostic note diagnostic =>
      (.ok none, runtime.recordStatusDiagnostic now note diagnostic)

def calls (readers : Readers) (runtime : ClientRuntime δ)
    (calls : List ((ℕ → SystemTime) × RuntimeCall δ)) : ClientRuntime δ :=
  calls.foldl (fun runtime step => (runtime.call readers step.1 step.2).2) runtime

/-- What a call tells of itself, read off the operations and not off the history they keep. -/
def eventsOf (readers : Readers) (now : ℕ → SystemTime) (runtime : ClientRuntime δ) :
    RuntimeCall δ → List (RuntimeEvent δ)
  | .start config => ⟨.starting, some "runtime starting", none, now 0⟩ ::
      match config.plan readers with
      | .ok plan => [⟨.running (runtime.generation + 1) plan.selectedOutbound plan.listen,
          some "runtime running", none, now 2⟩]
      | .error error => [⟨.failed error, some "runtime failed", none, now 1⟩]
  | .reload config => ⟨.reloading runtime.generation, some "runtime reloading", none, now 0⟩ ::
      match config.plan readers with
      | .ok plan => [⟨.running (runtime.generation + 1) plan.selectedOutbound plan.listen,
          some "runtime reload applied", none, now 2⟩]
      | .error error => [⟨.failed error, some "runtime reload rejected", none, now 1⟩]
  | .stop => if runtime.status = .stopped then [] else
      [⟨.stopping runtime.generation, some "runtime stopping", none, now 0⟩,
        ⟨.stopped, some "runtime stopped", none, now 1⟩]
  | .recordFailure error => [⟨.failed error, some "runtime failed", none, now 0⟩]
  | .recordReloadRejected error => [⟨.failed error, some "runtime reload rejected", none, now 0⟩]
  | .recordControlRejected error note => [⟨.failed error, some note, none, now 0⟩]
  | .recordStatusNote note => [⟨runtime.status, some note, none, now 0⟩]
  | .recordStatusDiagnostic note diagnostic =>
      [⟨runtime.status, some note, some diagnostic, now 0⟩]

def journal (readers : Readers) :
    ClientRuntime δ → List ((ℕ → SystemTime) × RuntimeCall δ) → List (RuntimeEvent δ)
  | _, [] => []
  | runtime, step :: steps => runtime.eventsOf readers step.1 step.2 ++
      journal readers (runtime.call readers step.1 step.2).2 steps

/-! ### The two halves of the state

What the client runs, and what it remembers. An event changes the second half only. -/

/-- Status, plan, configuration, generation and start time are the same. -/
structure SameCore (runtime runtime' : ClientRuntime δ) : Prop where
  status : runtime'.status = runtime.status
  activePlan : runtime'.activePlan = runtime.activePlan
  activeConfig : runtime'.activeConfig = runtime.activeConfig
  generation : runtime'.generation = runtime.generation
  startedAt : runtime'.startedAt = runtime.startedAt

theorem sameCore_pushEvent (ev : RuntimeEvent δ) (runtime : ClientRuntime δ) :
    SameCore runtime (runtime.pushEvent ev) := ⟨rfl, rfl, rfl, rfl, rfl⟩

/-- Plan, configuration and start time are there exactly while the client runs, and the status
agrees with them. -/
structure Coherent (runtime : ClientRuntime δ) : Prop where
  config_iff : runtime.activePlan.isSome ↔ runtime.activeConfig.isSome
  started_iff : runtime.activeConfig.isSome ↔ runtime.startedAt.isSome
  running_iff : runtime.startedAt.isSome ↔
    ∃ generation selectedOutbound listen,
      runtime.status = .running generation selectedOutbound listen
  agrees : ∀ generation selectedOutbound listen,
    runtime.status = .running generation selectedOutbound listen →
      generation = runtime.generation ∧
        ∃ plan, runtime.activePlan = some plan ∧ selectedOutbound = plan.selectedOutbound ∧
          listen = plan.listen

variable {readers : Readers} {runtime : ClientRuntime δ}

theorem Coherent.of_sameCore {rt' : ClientRuntime δ} (h : Coherent runtime)
    (hsame : SameCore runtime rt') : Coherent rt' := by
  obtain ⟨hstat, hplan, hconfig, hgen, hstarted⟩ := hsame
  constructor
  · rw [hplan, hconfig]; exact h.config_iff
  · rw [hconfig, hstarted]; exact h.started_iff
  · rw [hstarted, hstat]; exact h.running_iff
  · rw [hstat, hgen, hplan]; exact h.agrees

theorem coherent_idle (hplan : runtime.activePlan = none) (hconfig : runtime.activeConfig = none)
    (hstarted : runtime.startedAt = none)
    (hstat : ∀ generation selectedOutbound listen,
      runtime.status ≠ .running generation selectedOutbound listen) : Coherent runtime := by
  constructor
  · rw [hplan, hconfig]; rfl
  · rw [hconfig, hstarted]; rfl
  · rw [hstarted]
    constructor
    · intro h
      cases h
    · rintro ⟨generation, selectedOutbound, listen, h⟩
      exact absurd h (hstat generation selectedOutbound listen)
  · intro generation selectedOutbound listen h
    exact absurd h (hstat generation selectedOutbound listen)

theorem coherent_run (cfg : RuntimeConfig) (plan : ConnectionPlan) (startedAt : SystemTime)
    (note : String) (time : SystemTime) (runtime : ClientRuntime δ) :
    Coherent (runtime.run cfg plan startedAt note time) := by
  constructor
  · rfl
  · rfl
  · exact ⟨fun _ => ⟨_, _, _, rfl⟩, fun _ => rfl⟩
  · intro generation selectedOutbound listen h
    cases h
    exact ⟨rfl, plan, rfl, rfl, rfl⟩

theorem coherent_fail (error : ClientErrorKind) (time : SystemTime) (runtime : ClientRuntime δ) :
    Coherent (runtime.fail error time) := coherent_idle rfl rfl rfl nofun

theorem coherent_default (created : SystemTime) :
    Coherent (default created : ClientRuntime δ) := coherent_idle rfl rfl rfl nofun

theorem sameCore_reload_error {now : ℕ → SystemTime} {cfg : RuntimeConfig}
    {error : ClientErrorKind} (h : (runtime.reload readers now cfg).1 = .error error) :
    SameCore runtime (runtime.reload readers now cfg).2 := by
  unfold reload at h ⊢
  cases hplan : cfg.plan readers with
  | ok plan => rw [hplan] at h; cases h
  | error error => exact ⟨rfl, rfl, rfl, rfl, rfl⟩

theorem Coherent.call (h : Coherent runtime) (now : ℕ → SystemTime) (step : RuntimeCall δ) :
    Coherent (runtime.call readers now step).2 := by
  cases step with
  | start cfg =>
    simp only [ClientRuntime.call, Prod.map_snd, id_eq, start]
    cases cfg.plan readers with
    | ok plan => exact coherent_run cfg plan _ _ _ _
    | error error => exact coherent_fail error _ _
  | reload cfg =>
    simp only [ClientRuntime.call, Prod.map_snd, id_eq]
    cases hout : (runtime.reload readers now cfg).1 with
    | error error => exact h.of_sameCore (sameCore_reload_error hout)
    | ok plan =>
      unfold reload at hout ⊢
      cases hplan : cfg.plan readers with
      | ok plan => exact coherent_run cfg plan _ _ _ _
      | error error => rw [hplan] at hout; cases hout
  | stop =>
    simp only [ClientRuntime.call, stop]
    split_ifs
    · exact h
    · exact coherent_idle rfl rfl rfl nofun
  | recordFailure error => exact coherent_fail error _ _
  | recordReloadRejected error => exact h.of_sameCore (sameCore_pushEvent _ _)
  | recordControlRejected error note => exact h.of_sameCore (sameCore_pushEvent _ _)
  | recordStatusNote note => exact h.of_sameCore (sameCore_pushEvent _ _)
  | recordStatusDiagnostic note diagnostic => exact h.of_sameCore (sameCore_pushEvent _ _)

theorem generation_call (readers : Readers) (now : ℕ → SystemTime) (runtime : ClientRuntime δ)
    (step : RuntimeCall δ) :
    (runtime.call readers now step).2.generation =
      match (runtime.call readers now step).1 with
      | .ok (some _) => runtime.generation + 1
      | _ => runtime.generation := by
  cases step with
  | start cfg =>
    simp only [ClientRuntime.call, start]
    cases cfg.plan readers <;> rfl
  | reload cfg =>
    simp only [ClientRuntime.call, reload]
    cases cfg.plan readers <;> rfl
  | stop =>
    simp only [ClientRuntime.call, stop]
    split_ifs <;> rfl
  | _ => rfl

theorem plan_of_call {now : ℕ → SystemTime} {step : RuntimeCall δ} {plan : ConnectionPlan}
    (h : (runtime.call readers now step).1 = .ok (some plan)) :
    ∃ cfg, step = .start cfg ∨ step = .reload cfg := by
  cases step with
  | start cfg => exact ⟨cfg, .inl rfl⟩
  | reload cfg => exact ⟨cfg, .inr rfl⟩
  | _ => cases h

/-- The history is the end of what was told, and the last error is the last one in it. -/
structure Remembers (pushed : List (RuntimeEvent δ)) (runtime : ClientRuntime δ) : Prop where
  eventCount : runtime.eventCount = pushed.length
  events : runtime.events = pushed.drop (pushed.length - defaultRuntimeEventHistoryLimit)
  lastError : runtime.lastError = pushed.reverse.findSome? fun event => event.status.error?

theorem drop_drop_concat {α : Type} (pushed : List α) (ev : α) (limit : ℕ) :
    (pushed.drop (pushed.length - limit) ++ [ev]).drop
        ((pushed.drop (pushed.length - limit) ++ [ev]).length - limit) =
      (pushed ++ [ev]).drop ((pushed ++ [ev]).length - limit) := by
  rw [← drop_append_of_le_length (by omega), drop_drop]
  congr 1
  simp only [length_append, length_drop, length_singleton]
  omega

variable {pushed : List (RuntimeEvent δ)}

/-- An event that comes with any change of the other half. -/
theorem Remembers.push (h : Remembers pushed runtime) (ev : RuntimeEvent δ)
    (status : RuntimeStatus) (activePlan : Option ConnectionPlan)
    (activeConfig : Option RuntimeConfig) (generation : ℕ) (startedAt : Option SystemTime) :
    Remembers (pushed ++ [ev])
      ({ runtime with status, activePlan, activeConfig, generation, startedAt }.pushEvent ev) := by
  constructor
  · simp only [ClientRuntime.pushEvent, h.eventCount, length_append, length_singleton]
  · simp only [ClientRuntime.pushEvent, h.events]
    exact drop_drop_concat pushed ev _
  · simp only [ClientRuntime.pushEvent, h.lastError, reverse_append, reverse_singleton,
      singleton_append, List.findSome?_cons]
    cases ev.status.error? <;> rfl

theorem Remembers.call (h : Remembers pushed runtime) (now : ℕ → SystemTime)
    (step : RuntimeCall δ) : Remembers (pushed ++ runtime.eventsOf readers now step)
      (runtime.call readers now step).2 := by
  cases step with
  | start cfg =>
    simp only [ClientRuntime.call, Prod.map_snd, id_eq, start, eventsOf]
    rw [append_cons]
    cases cfg.plan readers <;> exact (h.push _ _ _ _ _ _).push _ _ _ _ _ _
  | reload cfg =>
    simp only [ClientRuntime.call, Prod.map_snd, id_eq, reload, eventsOf]
    rw [append_cons]
    cases cfg.plan readers <;> exact (h.push _ _ _ _ _ _).push _ _ _ _ _ _
  | stop =>
    simp only [ClientRuntime.call, stop, eventsOf]
    split_ifs
    · rwa [append_nil]
    · rw [append_cons]
      exact (h.push _ _ _ _ _ _).push _ _ _ _ _ _
  | _ => exact h.push _ _ _ _ _ _

theorem Remembers.calls (h : Remembers pushed runtime)
    (steps : List ((ℕ → SystemTime) × RuntimeCall δ)) :
    Remembers (pushed ++ journal readers runtime steps) (runtime.calls readers steps) := by
  induction steps generalizing pushed runtime with
  | nil => rwa [journal, append_nil]
  | cons step steps ih =>
    rw [journal, ← append_assoc]
    exact ih (h.call step.1 step.2)

theorem remembers_default (created : SystemTime) :
    Remembers [initialEvent created] (default created : ClientRuntime δ) := by
  refine ⟨rfl, ?_, rfl⟩
  simp only [default, length_singleton, defaultRuntimeEventHistoryLimit, Nat.reduceSub, drop_zero]

/-- The counters stay below twice the number of calls, and so below `2 ^ 64`. -/
theorem counters_le (readers : Readers) (runtime : ClientRuntime δ)
    (steps : List ((ℕ → SystemTime) × RuntimeCall δ)) :
    (journal readers runtime steps).length ≤ 2 * steps.length ∧
      (runtime.calls readers steps).generation ≤ runtime.generation + steps.length := by
  induction steps generalizing runtime with
  | nil => exact ⟨le_rfl, le_rfl⟩
  | cons step steps ih =>
    obtain ⟨hjournal, hgen⟩ := ih (runtime.call readers step.1 step.2).2
    have hevs : (runtime.eventsOf readers step.1 step.2).length ≤ 2 := by
      unfold eventsOf
      split
      case h_1 cfg _ | h_2 cfg _ => cases cfg.plan readers <;> simp
      case h_3 => split_ifs <;> simp
      all_goals simp
    have hstep : (runtime.call readers step.1 step.2).2.generation ≤ runtime.generation + 1 := by
      rw [generation_call]
      split
      · exact le_rfl
      · exact Nat.le_succ _
    rw [journal, length_append, length_cons]
    exact ⟨by omega, hgen.trans (by omega)⟩

theorem calls_invariant {inv : ClientRuntime δ → Prop}
    (hstep : ∀ runtime now step, inv runtime → inv (call readers now runtime step).2)
    (h : inv runtime) (steps : List ((ℕ → SystemTime) × RuntimeCall δ)) :
    inv (runtime.calls readers steps) := by
  unfold calls
  induction steps generalizing runtime with
  | nil => exact h
  | cons step steps ih => exact ih (hstep runtime step.1 step.2 h)

/-- After any calls the state is coherent and the history is the end of what the calls told, and a
`reload` that fails changes nothing but the history. -/
theorem client_runtime_invariant (readers : Readers) (created : SystemTime)
    (steps : List ((ℕ → SystemTime) × RuntimeCall δ)) :
    let runtime := (default created : ClientRuntime δ).calls readers steps
    let pushed := initialEvent created :: journal readers (default created) steps
    runtime.Coherent ∧
      (runtime.eventCount = pushed.length ∧
        runtime.events.length = min runtime.eventCount defaultRuntimeEventHistoryLimit ∧
        runtime.events <:+ pushed ∧
        runtime.lastError = pushed.reverse.findSome? fun event => event.status.error?) ∧
      (runtime.eventCount ≤ 2 * steps.length + 1 ∧ runtime.generation ≤ steps.length) ∧
      ∀ now step,
        (runtime.call readers now step).2.generation =
          (match (runtime.call readers now step).1 with
            | .ok (some _) => runtime.generation + 1
            | _ => runtime.generation) ∧
        (∀ plan, (runtime.call readers now step).1 = .ok (some plan) →
          ∃ config, step = .start config ∨ step = .reload config) ∧
        ∀ config error, step = .reload config →
          (runtime.call readers now step).1 = .error error →
          SameCore runtime (runtime.call readers now step).2 := by
  intro runtime pushed
  have hcoh : runtime.Coherent :=
    calls_invariant (fun _ now step h => h.call now step) (coherent_default created) steps
  have hremem : runtime.Remembers pushed := (remembers_default created).calls steps
  obtain ⟨hjournal, hgen⟩ :=
    counters_le readers (default created : ClientRuntime δ) steps
  refine ⟨hcoh, ⟨hremem.eventCount, ?_, ?_, hremem.lastError⟩, ⟨?_, ?_⟩,
    fun now step => ⟨generation_call readers now runtime step, fun _ => plan_of_call, ?_⟩⟩
  · rw [hremem.events, hremem.eventCount, length_drop]
    omega
  · rw [hremem.events]
    exact List.drop_suffix _ _
  · rw [hremem.eventCount]
    exact Nat.succ_le_succ hjournal
  · exact hgen.trans_eq (Nat.zero_add _)
  · rintro config error rfl herr
    simp only [ClientRuntime.call, Prod.map_fst] at herr
    cases hout : (runtime.reload readers now config).1 with
    | ok plan => rw [hout] at herr; cases herr
    | error error' => exact sameCore_reload_error hout

end ClientRuntime

end KeliNative.Client
