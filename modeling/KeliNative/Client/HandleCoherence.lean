import KeliNative.Client.Handle

/-!
# Coherence of the managed handle

The copies of the selection agree, and a refused operation changes only the history.
-/

namespace KeliNative.Client
open Protocol Route Outbound Relay Proxy

variable {δ : Type}

theorem ClientRuntime.reload_of_plan {readers : Readers} (rt : ClientRuntime δ)
    (now : ℕ → SystemTime) (cfg : RuntimeConfig) {plan : ConnectionPlan}
    (h : cfg.plan readers = .ok plan) :
    (rt.reload readers now cfg).1 = .ok plan ∧
      (rt.reload readers now cfg).2.activePlan = some plan ∧
      (rt.reload readers now cfg).2.activeConfig = some cfg := by
  unfold reload
  rw [h]
  exact ⟨rfl, rfl, rfl⟩

theorem ClientRuntime.reload_of_error {readers : Readers} (rt : ClientRuntime δ)
    (now : ℕ → SystemTime) (cfg : RuntimeConfig) {error : ClientErrorKind}
    (h : cfg.plan readers = .error error) :
    (rt.reload readers now cfg).1 = .error error := by
  unfold reload
  rw [h]

theorem mixedRuntimeFromText_routes {env : CoreEnvironment} {text tag : String}
    {blockDomains : List String} {relayOptions : RelayOptions} {dnsOptions : MixedDnsOptions}
    {handles : RuntimeHandles} {rt : ManagedMixedRuntime}
    (h : mixedRuntimeFromSubscriptionConfigText env.readers env.texts text blockDomains
      relayOptions (some tag) dnsOptions handles = .ok rt) :
    rt.routes.defaultAction = .outbound tag := by
  unfold mixedRuntimeFromSubscriptionConfigText at h
  split at h
  · cases h
  · obtain ⟨-, -, hroutes, -⟩ := mixedRuntime_ok h
    rw [hroutes]
    rfl

namespace ManagedMixedHandle

structure Unchanged (handle handle' : ManagedMixedHandle δ) : Prop where
  runtime : handle'.runtime = handle.runtime
  activePlan : handle'.state.activePlan = handle.state.activePlan
  activeConfig : handle'.state.activeConfig = handle.state.activeConfig
  generation : handle'.state.generation = handle.state.generation
  selectedOutbound : handle'.selectedOutbound = handle.selectedOutbound
  nodeHealth : handle'.nodeHealth = handle.nodeHealth
  sessionLimit : handle'.tunTcpMaxActiveSessions = handle.tunTcpMaxActiveSessions

theorem Unchanged.refl (handle : ManagedMixedHandle δ) : Unchanged handle handle :=
  ⟨rfl, rfl, rfl, rfl, rfl, rfl, rfl⟩

theorem Unchanged.trans {a b c : ManagedMixedHandle δ} (h : Unchanged a b) (h' : Unchanged b c) :
    Unchanged a c where
  runtime := h'.runtime.trans h.runtime
  activePlan := h'.activePlan.trans h.activePlan
  activeConfig := h'.activeConfig.trans h.activeConfig
  generation := h'.generation.trans h.generation
  selectedOutbound := h'.selectedOutbound.trans h.selectedOutbound
  nodeHealth := h'.nodeHealth.trans h.nodeHealth
  sessionLimit := h'.sessionLimit.trans h.sessionLimit

theorem unchanged_withState {handle : ManagedMixedHandle δ} {state : ClientRuntime δ}
    (h : ClientRuntime.SameCore handle.state state) : Unchanged handle (handle.withState state) :=
  ⟨rfl, h.activePlan, h.activeConfig, h.generation, rfl, rfl, rfl⟩

theorem unchanged_recordStatusNote (handle : ManagedMixedHandle δ) (now : ℕ → SystemTime)
    (note : String) : Unchanged handle (handle.recordStatusNote now note) :=
  unchanged_withState (ClientRuntime.sameCore_pushEvent _ _)

theorem unchanged_recordReloadRejected (handle : ManagedMixedHandle δ) (now : ℕ → SystemTime)
    (error : ClientErrorKind) :
    Unchanged handle (handle.withState (handle.state.recordReloadRejected now error)) :=
  unchanged_withState (ClientRuntime.sameCore_pushEvent _ _)

/-- The copies of the selection agree, and what the listener thread shares is as it was spawned. -/
structure Coherent (spawned handle : ManagedMixedHandle δ) : Prop where
  agrees : ∃ plan config, handle.state.activePlan = some plan ∧
    handle.state.activeConfig = some config ∧
    handle.selectedOutbound = some plan.selectedOutbound ∧
    handle.runtime.routes.defaultAction = .outbound plan.selectedOutbound ∧
    ∀ tag, (handle.nodeHealth tag).isSome → tag ∈ plan.preflight.supportedTags
  handles : handle.runtime.handles = spawned.runtime.handles
  workers : handle.runtime.maxConnectionWorkers = spawned.runtime.maxConnectionWorkers
  sessions : handle.runtime.tunTcpMaxActiveSessions = spawned.runtime.tunTcpMaxActiveSessions
  sessionLimit : handle.tunTcpMaxActiveSessions = spawned.runtime.tunTcpMaxActiveSessions

theorem Coherent.of_unchanged {spawned handle handle' : ManagedMixedHandle δ}
    (h : Coherent spawned handle) (hsame : Unchanged handle handle') :
    Coherent spawned handle' where
  agrees := by
    rw [hsame.activePlan, hsame.activeConfig, hsame.selectedOutbound, hsame.runtime,
      hsame.nodeHealth]
    exact h.agrees
  handles := by rw [hsame.runtime]; exact h.handles
  workers := by rw [hsame.runtime]; exact h.workers
  sessions := by rw [hsame.runtime]; exact h.sessions
  sessionLimit := hsame.sessionLimit.trans h.sessionLimit

variable {env : CoreEnvironment} {now : ℕ → SystemTime} {handles : RuntimeHandles}

theorem reload_cases (handle : ManagedMixedHandle δ) (env : CoreEnvironment)
    (now : ℕ → SystemTime) (handles : RuntimeHandles) (text : String)
    (outboundTag : Option String) :
    let res := handle.reloadFromSubscriptionConfigText env now handles text outboundTag
    (∃ plan next,
        buildConnectionPlan env.readers text outboundTag handle.listenAddr = .ok plan ∧
        next.routes.defaultAction = .outbound plan.selectedOutbound ∧
        res.1 = .ok () ∧
        res.2.runtime = (handle.swapRuntime next).runtime ∧
        res.2.state.activePlan = some plan ∧
        res.2.state.activeConfig = some ⟨text, outboundTag, handle.listenAddr⟩ ∧
        res.2.selectedOutbound = some plan.selectedOutbound ∧
        (res.2.nodeHealth = fun tag =>
          if tag ∈ plan.preflight.supportedTags then handle.nodeHealth tag else none) ∧
        res.2.tunTcpMaxActiveSessions = handle.tunTcpMaxActiveSessions) ∨
      ∃ error, res.1 = .error error ∧ Unchanged handle res.2 := by
  intro res
  simp only [res]
  unfold reloadFromSubscriptionConfigText
  cases hplan : buildConnectionPlan env.readers text outboundTag handle.listenAddr with
  | error error =>
    -- the client runtime is asked for the same plan and puts itself back
    have href := handle.state.reload_of_error now
      ⟨text, outboundTag, handle.listenAddr⟩ hplan
    exact .inr ⟨_, rfl, unchanged_withState (ClientRuntime.sameCore_reload_error href)⟩
  | ok plan =>
    dsimp only
    cases hnext : mixedRuntimeFromSubscriptionConfigText env.readers env.texts text
        handle.blockDomains handle.relayOptions (some plan.selectedOutbound) handle.dnsOptions
        handles with
    | error error => exact .inr ⟨_, rfl, unchanged_recordReloadRejected handle now _⟩
    | ok next =>
      obtain ⟨hout, hactivePlan, hactiveConfig⟩ :=
        (handle.swapRuntime next).state.reload_of_plan now
          ⟨text, outboundTag, handle.listenAddr⟩ hplan
      dsimp only
      cases hreload : (handle.swapRuntime next).state.reload env.readers now
        ⟨text, outboundTag, handle.listenAddr⟩ with
      | mk out state =>
        rw [hreload] at hout hactivePlan hactiveConfig
        dsimp only at hout hactivePlan hactiveConfig
        subst hout
        refine .inl ⟨plan, next, rfl, mixedRuntimeFromText_routes hnext, rfl, ?_⟩
        simp only [pruneNodeHealthToActivePlan, withState, hactivePlan, true_and]
        exact ⟨hactiveConfig, rfl, rfl⟩

theorem Coherent.reload {spawned handle : ManagedMixedHandle δ} (h : Coherent spawned handle)
    (text : String) (outboundTag : Option String) :
    Coherent spawned
      (handle.reloadFromSubscriptionConfigText env now handles text outboundTag).2 := by
  rcases handle.reload_cases env now handles text outboundTag with
    ⟨plan, next, -, hroutes, -, hruntime, hplan, hconfig, hsel, hhealth, hlim⟩ |
      ⟨error, -, hsame⟩
  · constructor
    · refine ⟨plan, _, hplan, hconfig, hsel, ?_, ?_⟩
      · rw [hruntime]
        exact hroutes
      · intro tag htag
        by_contra hnot
        rw [hhealth] at htag
        dsimp only at htag
        rw [if_neg hnot] at htag
        cases htag
    · rw [hruntime]; exact h.handles
    · rw [hruntime]; exact h.workers
    · rw [hruntime]; exact h.sessionLimit
    · rw [hlim]; exact h.sessionLimit
  · exact h.of_unchanged hsame

theorem unchanged_of_reload_error {handle : ManagedMixedHandle δ} {text : String}
    {outboundTag : Option String} {error : String}
    (h : (handle.reloadFromSubscriptionConfigText env now handles text outboundTag).1 =
      .error error) :
    Unchanged handle
      (handle.reloadFromSubscriptionConfigText env now handles text outboundTag).2 := by
  rcases handle.reload_cases env now handles text outboundTag with
    ⟨plan, next, -, -, hok, -⟩ | ⟨error, -, hsame⟩
  · rw [hok] at h
    cases h
  · exact hsame

theorem updatePlan_cases (handle : ManagedMixedHandle δ) (env : CoreEnvironment)
    (now : ℕ → SystemTime) (handles : RuntimeHandles) (text : String) :
    let res := handle.reloadWithUpdatePlan env now handles text
    (Unchanged handle res.2 ∧
        ((∃ error, res.1 = .error error) ∨ ∃ report why, res.1 = .ok (report, false, why))) ∨
      ∃ report planned,
        handle.subscriptionUpdateReportFromConfigText env text = .ok report ∧
        report.plannedSelectedOutbound = some planned ∧
        (handle.reloadFromSubscriptionConfigText env now handles text (some planned)).1 =
          .ok () ∧
        res.1 = .ok (report, true, none) ∧
        Unchanged
          (handle.reloadFromSubscriptionConfigText env now handles text (some planned)).2
          res.2 := by
  intro res
  simp only [res]
  unfold reloadWithUpdatePlan
  cases hreport : handle.subscriptionUpdateReportFromConfigText env text with
  | error error => exact .inl ⟨unchanged_recordReloadRejected handle now _, .inl ⟨error, rfl⟩⟩
  | ok report =>
    cases hplanned : report.plannedSelectedOutbound with
    | none =>
      simp only [hplanned]
      exact .inl ⟨(unchanged_recordReloadRejected handle now _).trans
        (unchanged_recordStatusNote _ _ _), .inr ⟨report, _, rfl⟩⟩
    | some planned =>
      simp only [hplanned]
      cases hreload : handle.reloadFromSubscriptionConfigText env now handles text
        (some planned) with
      | mk out handle' =>
        cases out with
        | error error =>
          have hsame := unchanged_of_reload_error (congrArg Prod.fst hreload)
          rw [hreload] at hsame
          exact .inl ⟨hsame, .inl ⟨error, rfl⟩⟩
        | ok =>
          exact .inr ⟨report, planned, rfl, hplanned, by rw [hreload], rfl, by
            rw [hreload]; exact unchanged_recordStatusNote _ _ _⟩

theorem Coherent.updatePlan {spawned handle : ManagedMixedHandle δ} (h : Coherent spawned handle)
    (text : String) : Coherent spawned (handle.reloadWithUpdatePlan env now handles text).2 := by
  rcases handle.updatePlan_cases env now handles text with
    ⟨hsame, -⟩ | ⟨report, planned, -, -, -, -, hsame⟩
  · exact h.of_unchanged hsame
  · exact (h.reload text (some planned)).of_unchanged hsame

theorem applyRecommended_cases (handle : ManagedMixedHandle δ) (env : CoreEnvironment)
    (now : ℕ → SystemTime) (handles : RuntimeHandles) :
    let res := handle.applyRecommendedOutbound env now handles
    Unchanged handle res.2 ∨
      ∃ noted text outboundTag, Unchanged handle noted ∧
        res = noted.reloadFromSubscriptionConfigText env (fun i => now (i + 1)) handles
          text outboundTag := by
  intro res
  simp only [res]
  unfold applyRecommendedOutbound
  cases handle.state.activePlan with
  | none => exact .inl (Unchanged.refl handle)
  | some plan =>
    dsimp only
    split_ifs with hready
    · exact .inl (unchanged_recordStatusNote handle now _)
    · split
      · exact .inl (unchanged_recordStatusNote handle now _)
      · exact .inr ⟨_, _, _, unchanged_recordStatusNote handle now _, rfl⟩

theorem Coherent.applyRecommended {spawned handle : ManagedMixedHandle δ}
    (h : Coherent spawned handle) :
    Coherent spawned (handle.applyRecommendedOutbound env now handles).2 := by
  rcases handle.applyRecommended_cases env now handles with
    hsame | ⟨noted, configText, outboundTag, hnoted, hres⟩
  · exact h.of_unchanged hsame
  · rw [hres]
    exact (h.of_unchanged hnoted).reload configText outboundTag

section

variable {handle : ManagedMixedHandle δ}

theorem unchanged_of_applyRecommended_error {error : String}
    (h : (handle.applyRecommendedOutbound env now handles).1 = .error error) :
    Unchanged handle (handle.applyRecommendedOutbound env now handles).2 := by
  rcases handle.applyRecommended_cases env now handles with
    hsame | ⟨noted, configText, outboundTag, hnoted, hres⟩
  · exact hsame
  · rw [hres] at h ⊢
    exact hnoted.trans (unchanged_of_reload_error h)

theorem unchanged_of_updatePlan_error {text error : String}
    (h : (handle.reloadWithUpdatePlan env now handles text).1 = .error error) :
    Unchanged handle (handle.reloadWithUpdatePlan env now handles text).2 := by
  rcases handle.updatePlan_cases env now handles text with
    ⟨hsame, -⟩ | ⟨report, planned, -, -, -, hok, -⟩
  · exact hsame
  · rw [hok] at h
    cases h

theorem unchanged_of_updatePlan_notApplied {text : String} {report : SubscriptionUpdateReport}
    {why : Option String}
    (h : (handle.reloadWithUpdatePlan env now handles text).1 = .ok (report, false, why)) :
    Unchanged handle (handle.reloadWithUpdatePlan env now handles text).2 := by
  rcases handle.updatePlan_cases env now handles text with
    ⟨hsame, -⟩ | ⟨report', planned, -, -, -, hok, -⟩
  · exact hsame
  · rw [hok] at h
    cases h

theorem ensureTag_ok {tag : String} {plan : ConnectionPlan}
    (hplan : handle.state.activePlan = some plan)
    (h : handle.ensureActiveSubscriptionTag tag = .ok ()) : tag ∈ plan.preflight.supportedTags := by
  unfold ensureActiveSubscriptionTag at h
  rw [hplan] at h
  dsimp only at h
  split_ifs at h with hmem
  exact hmem

end

theorem Coherent.recordNodeHealth {spawned handle : ManagedMixedHandle δ}
    (h : Coherent spawned handle) (now : ℕ → SystemTime) (health : ManagedNodeHealthStatus) :
    Coherent spawned (handle.recordNodeHealth now health).2 := by
  unfold ManagedMixedHandle.recordNodeHealth
  cases hensure : handle.ensureActiveSubscriptionTag health.tag with
  | error error => exact h
  | ok =>
    refine ⟨?_, h.handles, h.workers, h.sessions, h.sessionLimit⟩
    obtain ⟨plan, cfg, hplan, hconfig, hsel, hroutes, hhealth⟩ := h.agrees
    refine ⟨plan, cfg, hplan, hconfig, hsel, hroutes, fun tag htag => ?_⟩
    by_cases hsame : tag = health.tag
    · rw [hsame]
      exact ensureTag_ok hplan hensure
    · refine hhealth tag ?_
      simpa only [setNodeHealth, recordStatusNote, withState, Function.update_of_ne hsame]
        using htag

end ManagedMixedHandle

inductive HandleCall where
  | reload (configText : String) (outboundTag : Option String)
  | reloadWithUpdatePlan (configText : String)
  | applyRecommendedOutbound
  | recordNodeHealth (health : ManagedNodeHealthStatus)

namespace ManagedMixedHandle

/-- The clock of a call, and the shared objects a runtime made in it starts with. -/
structure CallContext where
  now : ℕ → SystemTime
  handles : RuntimeHandles

def call (env : CoreEnvironment) (context : CallContext) (handle : ManagedMixedHandle δ) :
    HandleCall → Except String (Option UpdateOutcome) × ManagedMixedHandle δ
  | .reload configText outboundTag =>
      (handle.reloadFromSubscriptionConfigText env context.now context.handles configText
        outboundTag).map (Except.map fun _ => none) id
  | .reloadWithUpdatePlan configText =>
      (handle.reloadWithUpdatePlan env context.now context.handles configText).map
        (Except.map some) id
  | .applyRecommendedOutbound =>
      (handle.applyRecommendedOutbound env context.now context.handles).map
        (Except.map fun _ => none) id
  | .recordNodeHealth health =>
      (handle.recordNodeHealth context.now health).map (Except.map fun _ => none) id

def calls (env : CoreEnvironment) (handle : ManagedMixedHandle δ)
    (steps : List (CallContext × HandleCall)) : ManagedMixedHandle δ :=
  steps.foldl (fun handle step => (handle.call env step.1 step.2).2) handle

def Refused : Except String (Option UpdateOutcome) → Prop
  | .error _ => True
  | .ok (some (_, applied, _)) => applied = false
  | .ok none => False

theorem Coherent.call {spawned handle : ManagedMixedHandle δ} (h : Coherent spawned handle)
    (env : CoreEnvironment) (context : CallContext) (step : HandleCall) :
    Coherent spawned (handle.call env context step).2 := by
  cases step with
  | reload configText outboundTag => exact h.reload configText outboundTag
  | reloadWithUpdatePlan configText => exact h.updatePlan configText
  | applyRecommendedOutbound => exact h.applyRecommended
  | recordNodeHealth health => exact h.recordNodeHealth context.now health

theorem Coherent.calls {spawned handle : ManagedMixedHandle δ} (h : Coherent spawned handle)
    (env : CoreEnvironment) (steps : List (CallContext × HandleCall)) :
    Coherent spawned (handle.calls env steps) := by
  unfold ManagedMixedHandle.calls
  induction steps generalizing handle with
  | nil => exact h
  | cons step steps ih => exact ih (h.call env step.1 step.2)

theorem unchanged_of_refused {handle : ManagedMixedHandle δ} {env : CoreEnvironment}
    {context : CallContext} {step : HandleCall} (h : Refused (handle.call env context step).1) :
    Unchanged handle (handle.call env context step).2 := by
  cases step with
  | reload configText outboundTag =>
    cases hout : (handle.reloadFromSubscriptionConfigText env context.now context.handles
        configText outboundTag).1 with
    | error error => exact unchanged_of_reload_error hout
    | ok => simp only [ManagedMixedHandle.call, Prod.map_fst, hout, Except.map, Refused] at h
  | reloadWithUpdatePlan configText =>
    cases hout : (handle.reloadWithUpdatePlan env context.now context.handles
        configText).1 with
    | error error => exact unchanged_of_updatePlan_error hout
    | ok out =>
      obtain ⟨report, applied, why⟩ := out
      simp only [ManagedMixedHandle.call, Prod.map_fst, hout, Except.map, Refused] at h
      subst h
      exact unchanged_of_updatePlan_notApplied hout
  | applyRecommendedOutbound =>
    cases hout : (handle.applyRecommendedOutbound env context.now context.handles).1 with
    | error error => exact unchanged_of_applyRecommended_error hout
    | ok => simp only [ManagedMixedHandle.call, Prod.map_fst, hout, Except.map, Refused] at h
  | recordNodeHealth health =>
    simp only [ManagedMixedHandle.call, Prod.map_fst, Prod.map_snd, id_eq,
      ManagedMixedHandle.recordNodeHealth] at h ⊢
    cases hensure : handle.ensureActiveSubscriptionTag health.tag with
    | error error => exact Unchanged.refl handle
    | ok => simp only [hensure, Except.map, Refused] at h

end ManagedMixedHandle

section

variable {env : CoreEnvironment} {options : ManagedMixedOptions} {configText listenAddr : String}
  {now : ℕ → SystemTime} {handles : RuntimeHandles} {core : ManagedMixedCore δ}
  (h : startCore env options configText listenAddr now handles = .ok core)

include h

theorem startCore_ok :
    ∃ plan generation,
      buildConnectionPlan env.readers configText options.outboundTag listenAddr = .ok plan ∧
      core.state.status = .running generation plan.selectedOutbound plan.listen ∧
      core.state.activePlan = some plan ∧
      core.state.activeConfig = some ⟨configText, options.outboundTag, listenAddr⟩ ∧
      core.listenAddr = listenAddr ∧
      core.runtime.routes.defaultAction = .outbound plan.selectedOutbound ∧
      core.tunTcpMaxActiveSessions = core.runtime.tunTcpMaxActiveSessions := by
  unfold startCore at h
  simp only [ClientRuntime.start] at h
  cases hplan : (⟨configText, options.outboundTag, listenAddr⟩ : RuntimeConfig).plan
      env.readers with
  | error error => rw [hplan] at h; cases h
  | ok plan =>
    simp only [hplan] at h
    split at h
    · cases h
    · rename_i runtime hruntime
      have hroutes := mixedRuntimeFromText_routes hruntime
      cases h
      exact ⟨plan, _, hplan, rfl, rfl, rfl, rfl, hroutes, rfl⟩

theorem coherent_spawnBackground : core.spawnBackground.Coherent core.spawnBackground := by
  obtain ⟨plan, generation, -, hstat, hplan, hconfig, -, hroutes, hlim⟩ := startCore_ok h
  refine ⟨⟨plan, _, hplan, hconfig, ?_, hroutes, nofun⟩, rfl, rfl, rfl, hlim⟩
  change core.selectedOutbound = some plan.selectedOutbound
  unfold ManagedMixedCore.selectedOutbound
  rw [hstat]

end

namespace ManagedMixedHandle

/-- Whatever is asked of a spawned handle, it stays coherent, and what it refuses changes
nothing. -/
theorem managed_handle_coherence {env : CoreEnvironment} {options : ManagedMixedOptions}
    {configText listenAddr : String} {now : ℕ → SystemTime} {handles : RuntimeHandles}
    {core : ManagedMixedCore δ}
    (h : startCore env options configText listenAddr now handles = .ok core)
    (steps : List (CallContext × HandleCall)) :
    let handle := core.spawnBackground.calls env steps
    core.spawnBackground.Coherent handle ∧
      ∀ context step, Refused (handle.call env context step).1 →
        Unchanged handle (handle.call env context step).2 := by
  intro handle
  exact ⟨(coherent_spawnBackground h).calls env steps, fun context step => unchanged_of_refused⟩

def someEnvironment : CoreEnvironment := ⟨twoDocuments, someStdTexts⟩

def someMixedOptions : ManagedMixedOptions where
  listen := "127.0.0.1:7890"
  blockDomains := []
  outboundTag := some "good"
  relayOptions := someRelayOptions
  systemProxy := false
  systemProxyBypass := []
  dnsOptions := someDnsOptions
  tunTcpMaxActiveSessions := 4096
  maxConnectionWorkers := 1024

def startedCore : Except String (ManagedMixedCore Unit) :=
  startCore someEnvironment someMixedOptions trojanText "127.0.0.1:7890" (fun i => ⟨i⟩) someHandles

/-- In the second document the other node has a cipher that no runtime can be made for. -/
def refusedReload (core : ManagedMixedCore Unit) :
    Except String (Option UpdateOutcome) × ManagedMixedHandle Unit :=
  core.spawnBackground.call someEnvironment ⟨fun i => ⟨i⟩, someHandles⟩
    (.reload (trojanText ++ vmessText) (some "good"))

theorem managed_handle_coherence_refused :
    ∃ core, startedCore = .ok core ∧ core.spawnBackground.Coherent core.spawnBackground ∧
      (∃ error, (refusedReload core).1 = .error error) ∧
      Unchanged core.spawnBackground (refusedReload core).2 := by
  have href : (startedCore.toOption.map fun core => (refusedReload core).1.isOk) =
      some false := by decide +kernel
  cases hcore : startedCore with
  | error error => rw [hcore] at href; cases href
  | ok core =>
    rw [hcore] at href
    obtain ⟨hcoh, hunch⟩ := managed_handle_coherence hcore []
    cases hout : (refusedReload core).1 with
    | ok outcome =>
      simp only [Except.toOption, Option.map_some, hout, Except.isOk, Except.toBool] at href
      cases href
    | error error =>
      refine ⟨core, rfl, hcoh, ⟨error, hout⟩, hunch _ _ ?_⟩
      change Refused (refusedReload core).1
      rw [hout]
      trivial

end ManagedMixedHandle

end KeliNative.Client
