import Mathlib.Logic.Basic

/-!
# Stateful programs that can fail

What a `Program` wrote before it failed stays written.
-/

namespace KeliNative

def Program (σ ε α : Type) : Type := σ → Except ε α × σ

namespace Program

variable {σ τ ε α β γ δ : Type}

def pure (a : α) : Program σ ε α := fun s => (.ok a, s)

def fail (e : ε) : Program σ ε α := fun s => (.error e, s)

def bind (program : Program σ ε α) (next : α → Program σ ε β) : Program σ ε β := fun s =>
  match program s with
  | (.ok a, s') => next a s'
  | (.error e, s') => (.error e, s')

theorem mapError_eq_ok {ε' : Type} {f : ε → ε'} {out : Except ε α} {a : α}
    (hok : out.mapError f = .ok a) : out = .ok a := by
  cases out with
  | ok b => exact congrArg Except.ok (Except.ok.inj hok)
  | error => cases hok

instance : Monad (Program σ ε) where
  pure := pure
  bind := bind

variable {inv : σ → Prop} {program : Program σ ε α} {s : σ} {next : α → Program σ ε β}
  {post : Except ε α → σ → Prop}

theorem bind_eq_ok {s' : σ} {b : β} (h : bind program next s = (.ok b, s')) :
    ∃ a middle, program s = (.ok a, middle) ∧ next a middle = (.ok b, s') := by
  rcases hrun : program s with ⟨out, middle⟩
  rw [bind, hrun] at h
  cases out with
  | error e => cases h
  | ok a => exact ⟨a, middle, rfl, h⟩

theorem bind_eq_error {s' : σ} {e : ε} (h : bind program next s = (.error e, s')) :
    program s = (.error e, s') ∨
      ∃ a middle, program s = (.ok a, middle) ∧ next a middle = (.error e, s') := by
  rcases hrun : program s with ⟨out, middle⟩
  rw [bind, hrun] at h
  cases out with
  | error =>
    cases h
    exact .inl rfl
  | ok a => exact .inr ⟨a, middle, rfl, h⟩

def ifLet (program : Program σ ε (Option α)) (found : α → Program σ ε β) (next : Program σ ε β) :
    Program σ ε β :=
  bind program fun
    | some a => found a
    | none => next

/-- Every run of `program` from `s` ends in an outcome and a state that satisfy `post`. -/
def Ensures (program : Program σ ε α) (s : σ) (post : Except ε α → σ → Prop) : Prop :=
  post (program s).1 (program s).2

def Outcome (onOk : α → σ → Prop) (onError : ε → σ → Prop) : Except ε α → σ → Prop
  | .ok a => onOk a
  | .error e => onError e

theorem ensures_pure {a : α} (h : post (.ok a) s) : Ensures (pure a) s post := h

theorem ensures_fail {e : ε} (h : post (.error e) s) : Ensures (fail e) s post := h

theorem ensures_bind {mid : Except ε α → σ → Prop} {post : Except ε β → σ → Prop}
    (h : Ensures program s mid) (hok : ∀ a s', mid (.ok a) s' → Ensures (next a) s' post)
    (herr : ∀ e s', mid (.error e) s' → post (.error e) s') :
    Ensures (bind program next) s post := by
  unfold Ensures bind at *
  split
  next a s' hrun =>
    rw [hrun] at h
    exact hok a s' h
  next e s' hrun =>
    rw [hrun] at h
    exact herr e s' h

theorem ensures_ifLet {program : Program σ ε (Option α)} {found : α → Program σ ε β}
    {next : Program σ ε β} {mid : Except ε (Option α) → σ → Prop} {post : Except ε β → σ → Prop}
    (h : Ensures program s mid) (hfound : ∀ a s', mid (.ok (some a)) s' → Ensures (found a) s' post)
    (hnext : ∀ s', mid (.ok none) s' → Ensures next s' post)
    (herr : ∀ e s', mid (.error e) s' → post (.error e) s') :
    Ensures (ifLet program found next) s post := by
  refine ensures_bind h ?_ herr
  intro a s' hmid
  cases a with
  | none => exact hnext s' hmid
  | some a => exact hfound a s' hmid

theorem Ensures.mono {post' : Except ε α → σ → Prop} (h : Ensures program s post)
    (himp : ∀ r s', post r s' → post' r s') : Ensures program s post' := himp _ _ h

theorem Ensures.onOk {onOk onOk' : α → σ → Prop} {onError : ε → σ → Prop}
    (h : Ensures program s (Outcome onOk onError)) (himp : ∀ a s', onOk a s' → onOk' a s') :
    Ensures program s (Outcome onOk' onError) :=
  h.mono fun out s' => match out with
    | .ok a => himp a s'
    | .error _ => fun h => h

/-- `program`, with the events of its outcome added to a history kept beside the state. -/
def recorded {E : Type} (program : Program σ ε α) (events : Except ε α → List E) :
    Program (σ × List E) ε α := fun (s, hist) =>
  let (outcome, s) := program s
  (outcome, s, hist ++ events outcome)

theorem recorded_run {E : Type} {evs : Except ε α → List E} {s' : σ} {out : Except ε α}
    (h : program s = (out, s')) (hist : List E) :
    program.recorded evs (s, hist) = (out, s', hist ++ evs out) := by
  simp only [recorded, h]

def Preserves (inv : σ → Prop) (program : Program σ ε α) : Prop := ∀ s, inv s → inv (program s).2

theorem preserves_pure (a : α) : Preserves inv (pure a : Program σ ε α) :=
  fun _ h => h

theorem preserves_fail (e : ε) : Preserves inv (fail e : Program σ ε α) :=
  fun _ h => h

theorem preserves_bind (h : Preserves inv program) (hnext : ∀ a, Preserves inv (next a)) :
    Preserves inv (bind program next) := by
  intro s hs
  have hmid := h s hs
  unfold bind
  split
  next a s' hrun =>
    rw [hrun] at hmid
    exact hnext a s' hmid
  next e s' hrun =>
    rw [hrun] at hmid
    exact hmid

theorem preserves_ifLet {program : Program σ ε (Option α)} {found : α → Program σ ε β}
    {next : Program σ ε β} (h : Preserves inv program) (hfound : ∀ a, Preserves inv (found a))
    (hnext : Preserves inv next) : Preserves inv (ifLet program found next) :=
  preserves_bind h fun
    | some a => hfound a
    | none => hnext

theorem preserves_ite {condition : Prop} [Decidable condition] {program' : Program σ ε α}
    (h : Preserves inv program) (h' : Preserves inv program') :
    Preserves inv (if condition then program else program') := by
  split
  · exact h
  · exact h'

end Program

end KeliNative
