import KeliNative.Tun.Execution

/-!
# Induction over runs

What the `SYN` of an incarnation establishes and every entry keeps holds of all of it.
-/

namespace KeliNative.Tun
open TunTcpSessionTable List Execution

theorem opens_eq_false {key : TunTcpSessionKey} {entry : Entry} {state state' : FlowState}
    (hbef : entry.before.At key state) (hafter : entry.after.At key state')
    (h : Continues key entry state state') : entry.opens key = false := by
  have hkept : ∀ r', state' = .active r' → r'.phase = .synReceived → ∃ r, state = .active r ∧
      r.phase = .synReceived ∧ r.clientInitialSequenceNumber = r'.clientInitialSequenceNumber := by
    cases h with
    | idle => exact fun r' hr' hph => ⟨r', hr', hph, rfl⟩
    | run _ _ hrun _ => exact hrun.synReceived
    | pruned => exact fun r' hr' => nomatch hr'
    | expired => exact fun r' hr' => nomatch hr'
  unfold Entry.opens
  rw [hafter.session, hbef.session]
  cases hsess : state'.session with
  | none => rfl
  | some r' =>
    by_cases hph : r'.phase = .synReceived
    · obtain ⟨r, rfl, hph', hisn⟩ := hkept r' (FlowState.session_eq_some.mp hsess) hph
      simp [hph', hisn]
    · simp [hph]

theorem opens_eq_true {key : TunTcpSessionKey} {entry : Entry} {state : FlowState} {a : Arrival}
    (hbef : entry.before.At key state) (hafter : entry.after.At key (.active (a.newSession key)))
    (h : Starts key a entry state) : entry.opens key = true := by
  unfold Entry.opens
  rw [hafter.session, hbef.session]
  cases hsess : state.session with
  | none => rfl
  | some r =>
    obtain ⟨_, hisn⟩ := h.new r (FlowState.session_eq_some.mp hsess)
    simp [Arrival.newSession, Ne.symm hisn]

def openingArrival (entries : List Entry) : Option Arrival :=
  entries.head?.bind fun entry =>
    match entry.input with
    | .segment a => some a
    | .prune _ _ => none

def Begins (a : Arrival) (entries : List Entry) : Prop := openingArrival entries = some a

instance (a : Arrival) (entries : List Entry) : Decidable (Begins a entries) :=
  inferInstanceAs (Decidable (_ = _))

theorem begins_cons {a : Arrival} {entry : Entry} (hin : entry.input = .segment a)
    (rest : List Entry) : Begins a (entry :: rest) := by
  simp only [Begins, openingArrival, List.head?_cons, Option.bind_some, hin]

theorem Begins.append {a : Arrival} {entries : List Entry} (h : Begins a entries)
    (more : List Entry) : Begins a (entries ++ more) := by
  cases entries with
  | nil => cases h
  | cons entry rest => exact h

theorem Begins.unique {a a' : Arrival} {entries : List Entry} (h : Begins a entries)
    (h' : Begins a' entries) : a = a' := Option.some.inj (h.symm.trans h')

theorem Begins.ne_nil {a : Arrival} {entries : List Entry} (h : Begins a entries) : entries ≠ [] := by
  rintro rfl
  cases h

section

variable {ρ : Type} {relay : TunTcpSessionRelay ρ} {maxActiveSessions : ℕ} {relayState : ρ}

variable (inputs : List Input)

theorem execute_append (input : Input) :
    execute relay maxActiveSessions relayState (inputs ++ [input]) =
      (execute relay maxActiveSessions relayState inputs).advance relay input := by
  rw [execute, foldl_append]
  rfl

theorem execute_sound :
    (execute relay maxActiveSessions relayState inputs).table.Sound (max maxActiveSessions 1) := by
  induction inputs using List.reverseRecOn with
  | nil => exact ⟨withMaxActiveSessions_inv _, rfl⟩
  | append_singleton inputs input ih =>
    rw [execute_append]
    exact react_sound relay ih input

theorem execute_inv : (execute relay maxActiveSessions relayState inputs).table.Inv :=
  (execute_sound inputs).inv

theorem execute_inputs :
    (execute relay maxActiveSessions relayState inputs).trace.map Entry.input = inputs := by
  induction inputs using List.reverseRecOn with
  | nil => rfl
  | append_singleton inputs input ih =>
    rw [execute_append, advance_trace, map_append, ih, map_singleton,
      react_input]

theorem execute_moves {inputs : List Input} {entry : Entry}
    (h : entry ∈ (execute relay maxActiveSessions relayState inputs).trace)
    (key : TunTcpSessionKey) : entry.before.Inv ∧ ∃ state state', entry.before.At key state ∧
      entry.after.At key state' ∧ Moves key entry state state' := by
  induction inputs using List.reverseRecOn with
  | nil => cases h
  | append_singleton inputs input ih =>
    rw [execute_append, advance_trace] at h
    rcases mem_append.mp h with h | h
    · exact ih h
    · rw [mem_singleton.mp h, react_before]
      have hinv : (execute relay maxActiveSessions relayState inputs).table.Inv := execute_inv inputs
      obtain ⟨state, hat, _⟩ := hinv.flows key
      obtain ⟨state', hat', hmoves⟩ := react_moves relay hinv hat input
      exact ⟨hinv, state, state', hat, hat', hmoves⟩

theorem incarnation_of_isPrefix {inputs : List Input} {key : TunTcpSessionKey}
    {earlier : List Entry}
    (h : earlier <+: incarnation key (execute relay maxActiveSessions relayState inputs).trace)
    (hne : earlier ≠ []) : ∃ before, before <+: inputs ∧
      incarnation key (execute relay maxActiveSessions relayState before).trace = earlier := by
  obtain ⟨trace, htrace, hepoch⟩ := epoch_of_isPrefix h hne
  suffices hrun : ∃ before, before <+: inputs ∧
      (execute relay maxActiveSessions relayState before).trace = trace by
    obtain ⟨before, hbef, rfl⟩ := hrun
    exact ⟨before, hbef, hepoch⟩
  clear h hepoch
  induction inputs using List.reverseRecOn with
  | nil => exact ⟨[], prefix_rfl, (prefix_nil.mp htrace).symm⟩
  | append_singleton inputs input ih =>
    rw [execute_append, advance_trace] at htrace
    rcases prefix_concat_iff.mp htrace with htrace | htrace
    · exact ⟨_, prefix_rfl, by rw [execute_append]; exact htrace.symm⟩
    · obtain ⟨before, hbef, hrun⟩ := ih htrace
      exact ⟨before, hbef.trans (prefix_append _ _), hrun⟩

theorem execute_input_mem {inputs : List Input} {entry : Entry}
    (h : entry ∈ (execute relay maxActiveSessions relayState inputs).trace) :
    entry.input ∈ inputs := by
  have hmem := mem_map_of_mem (f := Entry.input) h
  rwa [execute_inputs] at hmem

theorem execute_trace_isPrefix {before inputs : List Input} (h : before <+: inputs) :
    (execute relay maxActiveSessions relayState before).trace <+:
      (execute relay maxActiveSessions relayState inputs).trace := by
  obtain ⟨rest, rfl⟩ := h
  induction rest using List.reverseRecOn with
  | nil => rw [append_nil]
  | append_singleton rest input ih =>
    rw [← append_assoc, execute_append, advance_trace]
    exact ih.trans (prefix_append _ _)

section

variable (relay maxActiveSessions relayState) (key : TunTcpSessionKey) (good : Entry → Prop)
  (P : Arrival → FlowState → List Entry → Prop)
  (hstart : ∀ a state entry, good entry → Starts key a entry state →
    P a (.active (a.newSession key)) [entry])
  (hnext : ∀ a state state' entries entry, good entry → entry.before.At key state →
    state.WellFormed key → entry.after.At key state' → Continues key entry state state' →
    P a state entries → P a state' (entries ++ [entry]))

include hstart hnext

/-- Induction over a run for one key: what holds after the `SYN` and is kept by every later
entry. -/
theorem execute_induction (inputs : List Input)
    (hgood : ∀ entry ∈ (execute relay maxActiveSessions relayState inputs).trace, good entry) :
    (incarnation key (execute relay maxActiveSessions relayState inputs).trace = [] ∧
      (execute relay maxActiveSessions relayState inputs).table.At key .absent) ∨
    ∃ a state, Begins a (incarnation key (execute relay maxActiveSessions relayState inputs).trace) ∧
      (execute relay maxActiveSessions relayState inputs).table.At key state ∧
      P a state (incarnation key (execute relay maxActiveSessions relayState inputs).trace) := by
  induction inputs using List.reverseRecOn with
  | nil => exact .inl ⟨rfl, ⟨rfl, rfl, rfl⟩⟩
  | append_singleton inputs input ih =>
    rw [execute_append, advance_trace] at hgood
    rw [execute_append, advance_table, advance_trace, incarnation]
    have ih := ih fun entry hentry => hgood entry (mem_append_left _ hentry)
    have hgood := hgood _ (mem_append_right _ (mem_singleton_self _))
    have hinv : (execute relay maxActiveSessions relayState inputs).table.Inv := execute_inv inputs
    generalize execute relay maxActiveSessions relayState inputs = e at *
    obtain ⟨state, hat, hwf⟩ := hinv.flows key
    obtain ⟨state', hat', hmoves⟩ := react_moves relay hinv hat input
    have hbef : (e.react relay input).1.before.At key state := by
      rw [react_before]
      exact hat
    cases hmoves with
    | starts h =>
      rw [epoch_append_of_opens (opens_eq_true hbef hat' h)]
      exact .inr ⟨_, _, begins_cons h.input [], hat', hstart _ state _ hgood h⟩
    | continues h =>
      have hopens := opens_eq_false hbef hat' h
      rcases ih with ⟨hempty, habsent⟩ | ⟨a, state₀, hbegins, hat₀, hP⟩
      · obtain rfl := hat.unique habsent
        refine .inl ⟨epoch_append_of_empty hopens hempty, ?_⟩
        cases h with
        | idle => exact hat'
        | run _ _ hrun _ =>
          rw [hrun.absent rfl] at hat'
          exact hat'
        | expired => exact hat'
      · obtain rfl := hat.unique hat₀
        rw [epoch_append_of_continues hopens hbegins.ne_nil]
        have hbegins := hbegins.append [(e.react relay input).1]
        exact .inr ⟨a, state', hbegins, hat', hnext a state state' _ _ hgood hbef hwf hat' h hP⟩

/-- The same induction for every moment of an incarnation. -/
theorem incarnation_induction (inputs : List Input)
    (hgood : ∀ entry ∈ (execute relay maxActiveSessions relayState inputs).trace, good entry)
    {a : Arrival} {earlier : List Entry} (hbegins : Begins a earlier)
    (hearlier : earlier <+:
      incarnation key (execute relay maxActiveSessions relayState inputs).trace) :
    ∃ state, P a state earlier := by
  obtain ⟨before, hbef, rfl⟩ := incarnation_of_isPrefix hearlier hbegins.ne_nil
  have hgood' : ∀ entry ∈ (execute relay maxActiveSessions relayState before).trace, good entry :=
    fun entry hentry => hgood entry ((execute_trace_isPrefix hbef).subset hentry)
  rcases execute_induction relay maxActiveSessions relayState key good P hstart hnext before
      hgood' with ⟨hempty, _⟩ | ⟨a', state, hbegins', _, hP⟩
  · exact absurd hempty hbegins.ne_nil
  · obtain rfl := hbegins.unique hbegins'
    exact ⟨state, hP⟩

end

/-- The entries as moves of one flow, from a flow that is not there. -/
inductive FlowHistory (key : TunTcpSessionKey) : List Entry → FlowState → Prop
  | nil : FlowHistory key [] .absent
  | snoc {entries entry state state'} (hist : FlowHistory key entries state)
      (moves : Moves key entry state state') : FlowHistory key (entries ++ [entry]) state'

/-- The table refines one flow machine for each key. -/
theorem execute_refines (key : TunTcpSessionKey) :
    ∃ state, (execute relay maxActiveSessions relayState inputs).table.At key state ∧
      FlowHistory key (execute relay maxActiveSessions relayState inputs).trace state := by
  induction inputs using List.reverseRecOn with
  | nil => exact ⟨.absent, ⟨rfl, rfl, rfl⟩, .nil⟩
  | append_singleton inputs input ih =>
    obtain ⟨state, hat, hist⟩ := ih
    obtain ⟨state', hat', moves⟩ := react_moves relay (execute_inv inputs) hat input
    rw [execute_append, advance_table, advance_trace]
    exact ⟨state', hat', hist.snoc moves⟩

end

end KeliNative.Tun
