import KeliNative.Lib.Program

/-!
# Programs with observable effects

A `Logged` state keeps beside the world the list of the effects that reached it.
-/

namespace KeliNative

structure Logged (ω E : Type) where
  world : ω
  events : List E

namespace Program

variable {ω σ γ E ε ε' α β : Type}

def quietly (program : Program ω ε α) : Program (Logged ω E) ε α := fun s =>
  let (outcome, world) := program s.world
  (outcome, ⟨world, s.events⟩)

/-- An operation of the world that is observed as `event`, whatever it comes to. -/
def perform (event : E) (program : Program ω ε α) : Program (Logged ω E) ε α := fun s =>
  let (outcome, world) := program s.world
  (outcome, ⟨world, s.events ++ [event]⟩)

def observed (program : Program ω ε α) (events : Except ε α → List E) : Program (Logged ω E) ε α :=
  fun s =>
    let (outcome, world) := program s.world
    (outcome, ⟨world, s.events ++ events outcome⟩)

def mapError (f : ε → ε') (program : Program σ ε α) : Program σ ε' α := fun s =>
  ((program s).1.mapError f, (program s).2)

def attempt (program : Program σ ε α) : Program σ ε' (Except ε α) := fun s =>
  (.ok (program s).1, (program s).2)

def outside (program : Program σ ε α) : Program (σ × γ) ε α := fun s =>
  ((program s.1).1, ((program s.1).2, s.2))

def beside (program : Program σ ε α) : Program (γ × σ) ε α := fun s =>
  ((program s.2).1, (s.1, (program s.2).2))

def ofExcept : Except ε α → Program σ ε α
  | .ok a => pure a
  | .error e => fail e

def withLocal (init : γ) (program : Program (σ × γ) ε α) : Program σ ε α := fun s =>
  ((program (s, init)).1, (program (s, init)).2.1)

/-- The loop over candidates that returns the first success and otherwise the last error; an
attempt may also fail for good. -/
def tryEach (attempts : α → Program σ ε (Except ε β)) : List α → ε → Program σ ε β
  | [], last => fail last
  | a :: rest, _ =>
    bind (attempts a) fun
      | .ok b => pure b
      | .error e => tryEach attempts rest e

theorem ensures_attempt_bind {prog : Program σ ε α} {next : Except ε α → Program σ ε' β} {s : σ}
    {mid : Except ε α → σ → Prop} {post : Except ε' β → σ → Prop} (h : Ensures prog s mid)
    (hnext : ∀ out s', mid out s' → Ensures (next out) s' post) :
    Ensures (bind (attempt prog) next) s post := hnext _ _ h

def Guarantees (inv : σ → Prop) (post : α → Prop) (program : Program σ ε α) : Prop :=
  ∀ s, inv s → inv (program s).2 ∧ ∀ a, (program s).1 = .ok a → post a

section

variable {inv : σ → Prop} {post : α → Prop}

theorem guarantees_pure {a : α} (h : post a) : Guarantees (ε := ε) inv post (pure a) :=
  fun _ hs => ⟨hs, fun _ ha => Except.ok.inj ha ▸ h⟩

theorem guarantees_fail (e : ε) : Guarantees inv post (fail e) := fun _ hs => ⟨hs, nofun⟩

theorem guarantees_bind {mid : β → Prop} {prog : Program σ ε β} {next : β → Program σ ε α}
    (h : Guarantees inv mid prog) (hnext : ∀ b, mid b → Guarantees inv post (next b)) :
    Guarantees inv post (bind prog next) := by
  intro s hs
  obtain ⟨hinv, hval⟩ := h s hs
  unfold bind
  split
  next b s' hrun =>
    rw [hrun] at hinv hval
    exact hnext b (hval b rfl) s' hinv
  next e s' hrun =>
    rw [hrun] at hinv
    exact ⟨hinv, nofun⟩

theorem guarantees_ite {condition : Prop} [Decidable condition] {prog program' : Program σ ε α}
    (h : condition → Guarantees inv post prog) (h' : ¬condition → Guarantees inv post program') :
    Guarantees inv post (if condition then prog else program') := by
  split
  next hc => exact h hc
  next hc => exact h' hc

theorem preserves_mapError {f : ε → ε'} {prog : Program σ ε α} (h : Preserves inv prog) :
    Preserves inv (mapError f prog) := h

theorem preserves_attempt {prog : Program σ ε α} (h : Preserves inv prog) :
    Preserves inv (attempt prog : Program σ ε' _) := h

theorem preserves_ofExcept (out : Except ε α) : Preserves inv (ofExcept out) := by
  cases out with
  | ok a => exact preserves_pure a
  | error e => exact preserves_fail e

end

end Program

end KeliNative
