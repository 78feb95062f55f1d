import KeliNative.Platform.TunDevice

/-!
# Route takeover on Windows (`keli-platform/src/lib.rs`)

Every step has a command that adds a route and one that removes it.
-/

namespace KeliNative.Platform

structure WindowsTunCommand where
  program : String
  args : List String
  deriving DecidableEq

structure WindowsTunRouteTakeoverStep where
  add : WindowsTunCommand
  remove : WindowsTunCommand
  deriving DecidableEq

structure WindowsTunRouteTakeoverState where
  restoreCommands : List WindowsTunCommand
  deriving DecidableEq

/-- The commands run so far, in order. -/
abbrev Commands := List WindowsTunCommand

/-- How the system answers a command after those run so far. -/
abbrev System := Commands → WindowsTunCommand → Except TunDeviceError Unit

/-- Every command, run after the ones before it: the texts of the errors. -/
def runAll (system : System) : Commands → Commands → List String × Commands
  | [], ran => ([], ran)
  | command :: rest, ran =>
    let (errors, ran') := runAll system rest (ran ++ [command])
    match system ran command with
    | .error error => (error.display :: errors, ran')
    | .ok () => (errors, ran')

def WindowsTunRouteTakeoverState.restore (system : System) (state : WindowsTunRouteTakeoverState)
    (ran : Commands) : Except TunDeviceError Unit × Commands :=
  let (errors, ran) := runAll system state.restoreCommands.reverse ran
  if errors.isEmpty then (.ok (), ran)
  else (.error (.io ("restore TUN routes: " ++ "; ".intercalate errors)), ran)

/-- The loop over the steps, from those of which the routes were added already. -/
def takeoverLoop (system : System) : List WindowsTunRouteTakeoverStep → Commands → Commands →
    Except TunDeviceError WindowsTunRouteTakeoverState × Commands
  | [], restoreCommands, ran => (.ok ⟨restoreCommands⟩, ran)
  | step :: steps, restoreCommands, ran =>
    match system ran step.add with
    | .ok () => takeoverLoop system steps (restoreCommands ++ [step.remove]) (ran ++ [step.add])
    | .error error =>
      match WindowsTunRouteTakeoverState.restore system ⟨restoreCommands⟩ (ran ++ [step.add]) with
      | (.error restoreError, ran) =>
        (.error (.io (error.display ++ "; " ++ restoreError.display)), ran)
      | (.ok (), ran) => (.error error, ran)

/-- The steps are those of `windows_tun_route_takeover_steps`. -/
def applyWindowsTunRouteTakeover (system : System)
    (steps : Except TunDeviceError (List WindowsTunRouteTakeoverStep)) (ran : Commands) :
    Except TunDeviceError WindowsTunRouteTakeoverState × Commands :=
  match steps with
  | .error error => (.error error, ran)
  | .ok steps => takeoverLoop system steps [] ran

/-- One of the commands, run one after the other, fails with the error. -/
def FailsIn (system : System) : Commands → Commands → TunDeviceError → Prop
  | _, [], _ => False
  | ran, command :: rest, error =>
    system ran command = .error error ∨ FailsIn system (ran ++ [command]) rest error

theorem runAll_ran (system : System) (commands ran : Commands) :
    (runAll system commands ran).2 = ran ++ commands := by
  induction commands generalizing ran with
  | nil => exact (List.append_nil ran).symm
  | cons command rest ih =>
    have hrest := ih (ran ++ [command])
    unfold runAll
    cases system ran command <;> simpa using hrest

theorem mem_runAll (system : System) (text : String) (commands ran : Commands) :
    text ∈ (runAll system commands ran).1 ↔
      ∃ error, FailsIn system ran commands error ∧ error.display = text := by
  induction commands generalizing ran with
  | nil => simp [runAll, FailsIn]
  | cons command rest ih =>
    simp only [FailsIn, or_and_right, exists_or, ← ih, runAll]
    cases system ran command with
    | ok => simp
    | error error => simp only [List.mem_cons, Except.error.injEq, exists_eq_left', eq_comm]

theorem takeoverLoop_append {system : System} (done steps : List WindowsTunRouteTakeoverStep)
    (undo ran : Commands) (hdone : ∀ error, ¬FailsIn system ran (done.map (·.add)) error) :
    takeoverLoop system (done ++ steps) undo ran =
      takeoverLoop system steps (undo ++ done.map (·.remove))
        (ran ++ done.map (·.add)) := by
  induction done generalizing undo ran with
  | nil => simp
  | cons step done ih =>
    have hstep : system ran step.add = .ok () := by
      cases hansw : system ran step.add with
      | ok => rfl
      | error error => exact absurd (.inl hansw) (hdone error)
    have hrest := ih (undo ++ [step.remove]) (ran ++ [step.add])
      fun error hfails => hdone error (.inr hfails)
    simp only [List.cons_append, takeoverLoop, hstep, hrest, List.map_cons, List.append_assoc,
      List.nil_append]

/-- What the errors of a restore are reported as. -/
def restoreError (errors : List String) : TunDeviceError :=
  .io ("restore TUN routes: " ++ "; ".intercalate errors)

/-- A restore runs every command once, the last one first, and fails if one of them does. -/
theorem restore_eq (system : System) (state : WindowsTunRouteTakeoverState) (ran : Commands) :
    let removes := state.restoreCommands.reverse
    let errors := (runAll system removes ran).1
    state.restore system ran =
      (if errors.isEmpty then .ok () else .error (restoreError errors), ran ++ removes) := by
  intro removes errors
  have hran := runAll_ran system removes ran
  simp only [WindowsTunRouteTakeoverState.restore, errors, removes, ← hran]
  split <;> rfl

/-- The first add that fails is followed by the removes of the routes that were added, last one
first. -/
theorem windows_takeover_rolls_back (system : System) (steps : List WindowsTunRouteTakeoverStep)
    (ran : Commands) :
    (∀ done step rest error, steps = done ++ step :: rest →
      (∀ error, ¬FailsIn system ran (done.map (·.add)) error) →
      system (ran ++ done.map (·.add)) step.add = .error error →
      let added := ran ++ done.map (·.add) ++ [step.add]
      let removes := (done.map (·.remove)).reverse
      ∃ errors, (∀ text, text ∈ errors ↔
          ∃ failed, FailsIn system added removes failed ∧ failed.display = text) ∧
        applyWindowsTunRouteTakeover system (.ok steps) ran =
          (.error (if errors.isEmpty then error
            else .io (error.display ++ "; " ++ (restoreError errors).display)), added ++ removes)) ∧
    ((∀ error, ¬FailsIn system ran (steps.map (·.add)) error) →
      let removes := (steps.map (·.remove)).reverse
      ∃ state,
        applyWindowsTunRouteTakeover system (.ok steps) ran =
          (.ok state, ran ++ steps.map (·.add)) ∧
        ∀ ran', (state.restore system ran').2 = ran' ++ removes ∧
          ((∃ error, (state.restore system ran').1 = .error error) ↔
            ∃ error, FailsIn system ran' removes error)) := by
  constructor
  · intro done step rest error hsteps hdone hfail added removes
    refine ⟨_, fun text => mem_runAll system text removes added, ?_⟩
    rw [hsteps, applyWindowsTunRouteTakeover, takeoverLoop_append done _ _ _ hdone]
    simp only [takeoverLoop, hfail, List.nil_append, restore_eq]
    cases (runAll system removes added).1.isEmpty <;> rfl
  · intro hall removes
    have hrun : takeoverLoop system steps [] ran =
        (.ok ⟨steps.map (·.remove)⟩, ran ++ steps.map (·.add)) := by
      rw [← List.append_nil steps, takeoverLoop_append steps [] [] ran hall, List.append_nil]
      rfl
    refine ⟨_, hrun, fun ran' => ?_⟩
    have hfails : (∃ error, FailsIn system ran' removes error) ↔
        ¬(runAll system removes ran').1.isEmpty = true := by
      simp only [List.isEmpty_iff, List.eq_nil_iff_forall_not_mem, mem_runAll, not_forall, not_not]
      constructor
      · rintro ⟨error, h⟩
        exact ⟨_, error, h, rfl⟩
      · rintro ⟨_, error, h, -⟩
        exact ⟨error, h⟩
    rw [hfails, restore_eq]
    refine ⟨rfl, ?_⟩
    dsimp only
    split
    next hempty => simp [removes, hempty]
    next hempty => simp [removes, hempty]

end KeliNative.Platform
