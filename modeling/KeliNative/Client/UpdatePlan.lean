import KeliNative.Client.MixedRuntime

/-!
# Planning an update (`subscription_update_report_from_preflights`)

The selection is kept as long as its tag is offered.
-/

namespace KeliNative.Client
open Protocol

/-- As sets, the whole is made of two parts without a common tag. -/
def DisjointUnion (whole left right : List String) : Prop :=
  ∀ tag, (tag ∈ whole ↔ tag ∈ left ∨ tag ∈ right) ∧ ¬(tag ∈ left ∧ tag ∈ right)

theorem new_tags_split (cur new : List String) :
    DisjointUnion new (tagsAdded cur new) (tagsRetained cur new) := by
  intro tag
  simp only [tagsAdded, tagsRetained, List.mem_filter, decide_eq_true_eq]
  tauto

theorem current_tags_split (cur new : List String) :
    DisjointUnion cur (tagsRemoved cur new) (tagsRetained cur new) := by
  intro tag
  simp only [tagsRemoved, tagsRetained, List.mem_filter, decide_eq_true_eq]
  tauto

variable {new : SubscriptionPreflightReport} {selected : Option String} {tag : String}

theorem isUsable_of_mem (h : tag ∈ new.supportedTags) : new.isUsable = true := by
  unfold SubscriptionPreflightReport.isUsable
  cases htags : new.supportedTags with
  | nil => rw [htags] at h; cases h
  | cons => rfl

theorem plannedSelection_of_mem (h : tag ∈ new.supportedTags) :
    plannedSelection new (some tag) = (some tag, true, .selectedOutboundPreserved) := by
  simp only [plannedSelection, isUsable_of_mem h, h, if_true]
  rfl

theorem plannedSelection_of_missing (hdefault : new.defaultOutbound = new.supportedTags.head?)
    (h : ∀ tag ∈ selected, tag ∉ new.supportedTags) :
    (plannedSelection new selected).1 = new.defaultOutbound ∧
      (plannedSelection new selected).2.1 = false := by
  unfold plannedSelection SubscriptionPreflightReport.isUsable
  cases htags : new.supportedTags with
  | nil =>
    rw [hdefault, htags]
    exact ⟨rfl, rfl⟩
  | cons first rest =>
    cases selected with
    | none => exact ⟨rfl, rfl⟩
    | some tag =>
      have hmiss : tag ∉ first :: rest := htags ▸ h tag rfl
      simp only [hdefault, htags, List.isEmpty_cons, hmiss]
      exact ⟨rfl, rfl⟩

theorem default_isSome_iff (hdefault : new.defaultOutbound = new.supportedTags.head?) :
    new.defaultOutbound.isSome = new.isUsable := by
  unfold SubscriptionPreflightReport.isUsable
  rw [hdefault]
  cases new.supportedTags <;> rfl

/-- What an update does to the tags and to the selection. -/
theorem update_plan_spec {readers : Readers} {newText : String} {new : SubscriptionPreflightReport}
    (hnew : preflightSubscriptionConfig readers newText = .ok new)
    (current : Option SubscriptionPreflightReport) (selected : Option String) :
    let report := subscriptionUpdateReportFromPreflights current new selected
    let currentTags := (current.map (·.supportedTags)).getD []
    let effective := selected <|> current.bind (·.defaultOutbound)
    DisjointUnion new.supportedTags report.addedTags report.retainedTags ∧
    DisjointUnion currentTags report.removedTags report.retainedTags ∧
    (report.plannedSelectedOutbound.isSome ↔ new.isUsable) ∧
    (∀ tag ∈ report.plannedSelectedOutbound, tag ∈ new.supportedTags) ∧
    (∀ tag ∈ effective, tag ∈ new.supportedTags → report.plannedSelectedOutbound = some tag) ∧
    ((∀ tag ∈ effective, tag ∉ new.supportedTags) →
      report.plannedSelectedOutbound = new.defaultOutbound) ∧
    (report.selectedOutboundPreserved ↔
      report.plannedSelectedOutbound = effective ∧ ∃ tag ∈ effective, tag ∈ new.supportedTags) ∧
    (report.selectedOutboundChanged ↔ report.plannedSelectedOutbound ≠ effective) ∧
    ∀ current',
      let again :=
        subscriptionUpdateReportFromPreflights current' new report.plannedSelectedOutbound
      again.plannedSelectedOutbound = report.plannedSelectedOutbound ∧
        (new.isUsable → again.selectedOutboundPreserved ∧ ¬again.selectedOutboundChanged) := by
  intro report currentTags effective
  have hdefault : new.defaultOutbound = new.supportedTags.head? := by
    obtain ⟨parsed, -, rfl⟩ := preflight_ok hnew
    rfl
  have hplanned : report.plannedSelectedOutbound = (plannedSelection new effective).1 := rfl
  have hkept : report.selectedOutboundPreserved = (plannedSelection new effective).2.1 := rfl
  have hchanged : report.selectedOutboundChanged ↔ report.plannedSelectedOutbound ≠ effective := by
    simp only [report, subscriptionUpdateReportFromPreflights, decide_eq_true_eq]
    exact ne_comm
  -- the selection is still offered, or the default is planned
  have hcases : (∃ tag ∈ new.supportedTags, effective = some tag ∧
        report.plannedSelectedOutbound = some tag ∧ report.selectedOutboundPreserved = true) ∨
      (∀ tag ∈ effective, tag ∉ new.supportedTags) ∧
        report.plannedSelectedOutbound = new.defaultOutbound ∧
        report.selectedOutboundPreserved = false := by
    by_cases h : ∃ tag ∈ effective, tag ∈ new.supportedTags
    · obtain ⟨tag, heffective, hmem⟩ := h
      have htag : effective = some tag := heffective
      rw [hplanned, hkept, htag, plannedSelection_of_mem hmem]
      exact .inl ⟨tag, hmem, rfl, rfl, rfl⟩
    · simp only [not_exists, not_and] at h
      rw [hplanned, hkept]
      exact .inr ⟨h, plannedSelection_of_missing hdefault h⟩
  have hoffered : ∀ tag ∈ report.plannedSelectedOutbound, tag ∈ new.supportedTags := by
    intro tag htag
    rcases hcases with ⟨kept, hmem, -, hplan, -⟩ | ⟨-, hplan, -⟩
    · rw [hplan] at htag
      cases htag
      exact hmem
    · rw [hplan, hdefault] at htag
      exact List.mem_of_mem_head? htag
  have husable : report.plannedSelectedOutbound.isSome ↔ new.isUsable := by
    rcases hcases with ⟨tag, hmem, -, hplan, -⟩ | ⟨-, hplan, -⟩
    · rw [hplan, isUsable_of_mem hmem]
      rfl
    · rw [hplan, default_isSome_iff hdefault]
  refine ⟨new_tags_split _ _, current_tags_split _ _, husable, hoffered, ?_, ?_, ?_, hchanged, ?_⟩
  · intro tag htag hmem
    rcases hcases with ⟨kept, -, heffective, hplan, -⟩ | ⟨hmiss, -, -⟩
    · rw [hplan, ← heffective]
      exact htag
    · exact absurd hmem (hmiss tag htag)
  · intro hmiss
    rcases hcases with ⟨kept, hmem, heffective, -, -⟩ | ⟨-, hplan, -⟩
    · exact absurd hmem (hmiss kept heffective)
    · exact hplan
  · rcases hcases with ⟨kept, hmem, heffective, hplan, hpreserved⟩ | ⟨hmiss, -, hpreserved⟩
    · simp only [hpreserved, hplan, heffective, Option.mem_def, Option.some.injEq, true_and]
      exact ⟨fun _ => ⟨kept, rfl, hmem⟩, fun _ => trivial⟩
    · rw [hpreserved]
      constructor
      · intro h
        cases h
      · rintro ⟨-, tag, htag, hmem⟩
        exact absurd hmem (hmiss tag htag)
  · intro current' again
    by_cases hnewUsable : new.isUsable = true
    · obtain ⟨tag, htag⟩ := Option.isSome_iff_exists.mp (husable.mpr hnewUsable)
      have hselection : (some tag <|> current'.bind (·.defaultOutbound)) = some tag := rfl
      simp [again, htag, subscriptionUpdateReportFromPreflights, hselection,
        plannedSelection_of_mem (hoffered tag htag)]
    · have hnone : ∀ selection, (plannedSelection new selection).1 = none := by
        intro selection
        simp only [plannedSelection, hnewUsable]
        rfl
      exact ⟨(hnone _).trans (hnone _).symm, fun husable => absurd husable hnewUsable⟩

/-- One node is added, one removed and one retained, and the selected one is gone. -/
theorem update_plan_spec_replaced :
    let new := SubscriptionPreflightReport.ofParsed ⟨[trojanProfile, vmessProfile], []⟩
    let current := SubscriptionPreflightReport.ofParsed
      ⟨[trojanProfile, { trojanProfile with tag := "old" }], []⟩
    let report := subscriptionUpdateReportFromPreflights (some current) new (some "old")
    report.addedTags = ["other"] ∧ report.removedTags = ["old"] ∧ report.retainedTags = ["good"] ∧
      DisjointUnion new.supportedTags report.addedTags report.retainedTags ∧
      DisjointUnion current.supportedTags report.removedTags report.retainedTags ∧
      report.plannedSelectedOutbound = some "good" := by
  intro new current report
  have hnew : preflightSubscriptionConfig twoDocuments (trojanText ++ vmessText) = .ok new := by
    rw [preflightSubscriptionConfig, parse_bothTexts]
  obtain ⟨hadded, hremoved, -, -, -, hmiss, -⟩ := update_plan_spec hnew (some current) (some "old")
  exact ⟨by decide, by decide, by decide, hadded, hremoved, hmiss (by decide)⟩

end KeliNative.Client
