import KeliNative.Client.HandleCoherence

/-!
# Switching to the recommended node (`apply_recommended_outbound`)

The handle switches to the best of the healthy nodes.
-/

namespace KeliNative.Client
open ManagedSubscriptionStatus (fromPlan)

/-- Every status is stored under its own tag, as `set_node_health` does. -/
def Keyed (nodeHealth : String → Option ManagedNodeHealthStatus) : Prop :=
  ∀ tag, ∀ status ∈ nodeHealth tag, status.tag = tag

def healthOf (nodeHealth : String → Option ManagedNodeHealthStatus) (tag : String) :
    ManagedNodeHealthStatus := (nodeHealth tag).getD (.unknown tag)

structure Eligible (plan : ConnectionPlan) (nodeHealth : String → Option ManagedNodeHealthStatus)
    (tag : String) : Prop where
  supported : tag ∈ plan.preflight.supportedTags
  healthy : (healthOf nodeHealth tag).state = .healthy
  tcp : (healthOf nodeHealth tag).tcpAvailable ≠ some false

variable {δ : Type} {nodeHealth : String → Option ManagedNodeHealthStatus}

theorem Keyed.healthOf_tag (h : Keyed nodeHealth) (tag : String) :
    (healthOf nodeHealth tag).tag = tag := by
  unfold healthOf
  cases hstat : nodeHealth tag with
  | none => rfl
  | some status => exact h tag status hstat

/-- Nothing but the selection is recommended without a node to switch to; otherwise a best one. -/
theorem Keyed.recommended (h : Keyed nodeHealth) (plan : ConnectionPlan) :
    let recommended := (fromPlan plan nodeHealth).recommendedOutbound
    ((∀ tag, ¬Eligible plan nodeHealth tag) ∧ recommended = plan.selectedOutbound) ∨
      Eligible plan nodeHealth recommended ∧
        ∀ other, Eligible plan nodeHealth other →
          recommendationKey (healthOf nodeHealth recommended) ≤
            recommendationKey (healthOf nodeHealth other) := by
  intro recommended
  generalize hcandidates : ((plan.preflight.supportedTags.map (healthOf nodeHealth)).filter
    fun health => health.state = .healthy ∧ health.tcpAvailable ≠ some false) = candidates
  have hmem : ∀ status, status ∈ candidates ↔
      ∃ tag, Eligible plan nodeHealth tag ∧ healthOf nodeHealth tag = status := by
    intro status
    simp only [← hcandidates, List.mem_filter, List.mem_map, decide_eq_true_eq]
    constructor
    · rintro ⟨⟨tag, htag, rfl⟩, hhealthy, htcp⟩
      exact ⟨tag, ⟨htag, hhealthy, htcp⟩, rfl⟩
    · rintro ⟨tag, ⟨htag, hhealthy, htcp⟩, rfl⟩
      exact ⟨⟨tag, htag, rfl⟩, hhealthy, htcp⟩
  have hrecommended : recommended =
      ((candidates.argmin recommendationKey).map (·.tag)).getD plan.selectedOutbound := by
    rw [← hcandidates]
    rfl
  cases hbest : candidates.argmin recommendationKey with
  | none =>
    rw [List.argmin_eq_none] at hbest
    refine .inl ⟨fun tag htag => ?_, ?_⟩
    · have hcand := (hmem _).mpr ⟨tag, htag, rfl⟩
      rw [hbest] at hcand
      cases hcand
    · rw [hrecommended, hbest]
      rfl
  | some best =>
    obtain ⟨tag, htag, rfl⟩ := (hmem best).mp (List.argmin_mem hbest)
    have heq : recommended = tag := by
      rw [hrecommended, hbest]
      exact h.healthOf_tag tag
    rw [heq]
    exact .inr ⟨htag, fun other hother =>
      List.le_of_mem_argmin ((hmem _).mpr ⟨other, hother, rfl⟩) hbest⟩

theorem recommended_ne_of_ready {plan : ConnectionPlan}
    (h : (fromPlan plan nodeHealth).healthSummary.recommendedSwitchReady) :
    (fromPlan plan nodeHealth).recommendedOutbound ≠
      plan.selectedOutbound := by
  intro heq
  simp only [fromPlan, SwitchSummary.fromNodeHealth, Bool.and_eq_true,
    Bool.not_eq_true', decide_eq_false_iff_not] at h heq
  exact h.1 heq.symm

theorem selectedOutbound_of_plan {readers : Protocol.Readers} {text listen tag : String}
    {plan : ConnectionPlan} (h : buildConnectionPlan readers text (some tag) listen = .ok plan) :
    plan.selectedOutbound = tag := by
  obtain ⟨-, -, -, hsel, -⟩ := buildConnectionPlan_ok h
  simp only [SubscriptionPreflightReport.selectOutbound] at hsel
  split_ifs at hsel
  cases hsel
  rfl

namespace ManagedMixedHandle

variable {handle : ManagedMixedHandle δ} {env : CoreEnvironment}

theorem keyed_reload (h : Keyed handle.nodeHealth) (now : ℕ → SystemTime)
    (handles : RuntimeHandles) (text : String) (outboundTag : Option String) :
    Keyed (handle.reloadFromSubscriptionConfigText env now handles text
      outboundTag).2.nodeHealth := by
  rcases handle.reload_cases env now handles text outboundTag with
    ⟨plan, next, -, -, -, -, -, -, -, hhealth, -⟩ | ⟨error, -, hsame⟩
  · intro tag status hstat
    rw [hhealth] at hstat
    dsimp only at hstat
    split_ifs at hstat
    · exact h tag status hstat
    · cases hstat
  · rw [hsame.nodeHealth]
    exact h

theorem keyed_call (h : Keyed handle.nodeHealth) (context : CallContext) (step : HandleCall) :
    Keyed (handle.call env context step).2.nodeHealth := by
  cases step with
  | reload configText outboundTag => exact keyed_reload h _ _ configText outboundTag
  | reloadWithUpdatePlan configText =>
    rcases handle.updatePlan_cases env context.now context.handles configText with
      ⟨hsame, -⟩ | ⟨report, planned, -, -, -, -, hsame⟩
    · exact hsame.nodeHealth ▸ h
    · exact hsame.nodeHealth ▸ keyed_reload h _ _ configText (some planned)
  | applyRecommendedOutbound =>
    rcases handle.applyRecommended_cases env context.now context.handles with
      hsame | ⟨noted, configText, outboundTag, hnoted, hres⟩
    · exact hsame.nodeHealth ▸ h
    · simp only [ManagedMixedHandle.call, Prod.map_snd, id_eq, hres]
      exact keyed_reload (hnoted.nodeHealth ▸ h) _ _ configText outboundTag
  | recordNodeHealth health =>
    simp only [ManagedMixedHandle.call, Prod.map_snd, id_eq, recordNodeHealth]
    cases handle.ensureActiveSubscriptionTag health.tag with
    | error => exact h
    | ok =>
      intro tag status hstat
      by_cases htag : tag = health.tag
      · subst htag
        simp only [setNodeHealth, recordStatusNote, withState, Function.update_self] at hstat
        cases hstat
        rfl
      · simp only [setNodeHealth, recordStatusNote, withState, Function.update_of_ne htag]
          at hstat
        exact h tag status hstat

/-- Whatever is asked of a spawned handle, its statuses stay under their own tags. -/
theorem keyed_calls (core : ManagedMixedCore δ) (steps : List (CallContext × HandleCall)) :
    Keyed (core.spawnBackground.calls env steps).nodeHealth := by
  have hrun : ∀ handle : ManagedMixedHandle δ, Keyed handle.nodeHealth →
      Keyed (handle.calls env steps).nodeHealth := by
    unfold calls
    induction steps with
    | nil => exact fun handle h => h
    | cons step steps ih => exact fun handle h => ih _ (keyed_call h step.1 step.2)
  refine hrun _ fun tag status hstat => ?_
  cases hstat

/-- A switch goes to a best one of the eligible nodes, and only if that is another than the
selected one. -/
theorem recommended_switch_optimal (env : CoreEnvironment) (now : ℕ → SystemTime)
    (handles : RuntimeHandles) {handle : ManagedMixedHandle δ} {plan : ConnectionPlan}
    (hplan : handle.state.activePlan = some plan) (hkeyed : Keyed handle.nodeHealth) :
    let status := ManagedSubscriptionStatus.fromPlan plan handle.nodeHealth
    let result := handle.applyRecommendedOutbound env now handles
    (result.1 = .ok () → Unchanged handle result.2 ∨
      ∃ tag plan', result.2.selectedOutbound = some tag ∧
        result.2.state.activePlan = some plan' ∧ plan'.selectedOutbound = tag ∧
        result.2.runtime.routes.defaultAction = .outbound tag ∧
        Eligible plan handle.nodeHealth tag ∧
        (∀ other, Eligible plan handle.nodeHealth other →
          recommendationKey (healthOf handle.nodeHealth tag) ≤
            recommendationKey (healthOf handle.nodeHealth other)) ∧
        tag ≠ plan.selectedOutbound ∧ status.recommendedOutbound = tag ∧
        status.healthSummary.recommendedSwitchReady) ∧
    ((∀ tag, ¬Eligible plan handle.nodeHealth tag) → Unchanged handle result.2) := by
  intro status result
  have hrecommended := hkeyed.recommended plan
  simp only [result]
  unfold applyRecommendedOutbound
  simp only [hplan]
  split_ifs with hready
  · exact ⟨fun _ => .inl (unchanged_recordStatusNote handle now _),
      fun _ => unchanged_recordStatusNote handle now _⟩
  · simp only [Bool.not_eq_true', Bool.not_eq_false] at hready
    have hother := recommended_ne_of_ready hready
    rcases hrecommended with ⟨-, heq⟩ | ⟨heligible, hbest⟩
    · exact absurd heq hother
    refine ⟨fun hok => .inr ?_, fun hnone => absurd heligible (hnone _)⟩
    split at hok
    · cases hok
    · rename_i config hconfig
      rcases reload_cases _ env (fun i => now (i + 1)) handles config.configText
          (some status.recommendedOutbound) with
        ⟨plan', next, hbuild, hroutes, -, hruntime, hactive, -, hsel, -⟩ | ⟨error, herr, -⟩
      · have htag := selectedOutbound_of_plan hbuild
        rw [htag] at hsel hroutes
        refine ⟨_, plan', hsel, hactive, htag, ?_, heligible, hbest, hother, rfl, hready⟩
        rw [hruntime]
        exact hroutes
      · rw [herr] at hok
        cases hok

def spareText : String :=
  "- name: spare\n  type: trojan\n  server: a.example\n  port: 443\n  password: password\n"

/-- What a YAML reader makes of a document with two nodes that differ in their names. -/
def spareEnvironment : CoreEnvironment where
  readers := { twoDocuments with
    yaml text :=
      if text = trojanText ++ spareText then
        .ok ⟨[trojanProxy, { trojanProxy with name := some "spare" }]⟩
      else .error "unreadable" }
  texts := someStdTexts

def spareCore : Except String (ManagedMixedCore Unit) :=
  startCore spareEnvironment someMixedOptions (trojanText ++ spareText) "127.0.0.1:7890"
    (fun i => ⟨i⟩) someHandles

def healthyAt (tag : String) (latency : ℕ) : ManagedNodeHealthStatus :=
  ⟨tag, .healthy, some true, none, some latency, none, none, none⟩

/-- The first node is selected, and the spare one answers faster. -/
def measured (core : ManagedMixedCore Unit) : ManagedMixedHandle Unit :=
  (core.spawnBackground.setNodeHealth (fun i => ⟨i⟩) (healthyAt "good" 90)).setNodeHealth
    (fun i => ⟨i⟩) (healthyAt "spare" 20)

def switched (core : ManagedMixedCore Unit) : Except String Unit × ManagedMixedHandle Unit :=
  (measured core).applyRecommendedOutbound spareEnvironment (fun i => ⟨i⟩) someHandles

theorem recommended_switch_optimal_spare :
    ∃ core plan, spareCore = .ok core ∧ (measured core).state.activePlan = some plan ∧
      (measured core).selectedOutbound = some "good" ∧
      (switched core).2.selectedOutbound = some "spare" ∧
      Eligible plan (measured core).nodeHealth "spare" ∧
      ∀ other, Eligible plan (measured core).nodeHealth other →
        recommendationKey (healthOf (measured core).nodeHealth "spare") ≤
          recommendationKey (healthOf (measured core).nodeHealth other) := by
  have hfacts : (spareCore.toOption.map fun core => ((switched core).1.toOption,
      (measured core).selectedOutbound, (switched core).2.selectedOutbound)) =
      some (some (), some "good", some "spare") := by decide +kernel
  cases hcore : spareCore with
  | error error => rw [hcore] at hfacts; cases hfacts
  | ok core =>
    rw [hcore] at hfacts
    obtain ⟨hok, hbef, hafter⟩ : (switched core).1.toOption = some () ∧
        (measured core).selectedOutbound = some "good" ∧
        (switched core).2.selectedOutbound = some "spare" := by
      simpa only [Except.toOption, Option.map_some, Option.some.injEq, Prod.mk.injEq] using hfacts
    replace hok : (switched core).1 = .ok () := by
      cases hout : (switched core).1 with
      | ok => rfl
      | error error => rw [hout] at hok; cases hok
    obtain ⟨plan, -, -, -, hstarted, -⟩ := startCore_ok hcore
    have hplan : (measured core).state.activePlan = some plan := hstarted
    have hkeyed : Keyed (measured core).nodeHealth := by
      intro tag status hstat
      change Function.update (Function.update (fun _ => none) "good" (some (healthyAt "good" 90)))
        "spare" (some (healthyAt "spare" 20)) tag = some status at hstat
      simp only [Function.update_apply] at hstat
      split_ifs at hstat with hspare hgood
      · cases hstat
        exact hspare.symm
      · cases hstat
        exact hgood.symm
    have hswitch := recommended_switch_optimal spareEnvironment (fun i => ⟨i⟩) someHandles hplan hkeyed
    rcases hswitch.1 hok with hsame | ⟨tag, _, htag, -, -, -, heligible, hbest, -⟩
    · have hsel := hsame.selectedOutbound
      rw [hbef] at hsel
      exact absurd (hafter.symm.trans hsel) (by decide)
    · cases htag.symm.trans hafter
      exact ⟨core, plan, rfl, hplan, hbef, hafter, heligible, hbest⟩

end ManagedMixedHandle

end KeliNative.Client
