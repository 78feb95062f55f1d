import KeliNative.Lib.Effects
import Mathlib.Data.List.Basic

/-!
# What a program adds to a history

Only recorded operations touch the history beside the world.
-/

namespace KeliNative.Program
open List

variable {ω E ε ε' α β : Type}

def Adds (calls : List E) (s : ω) (program : Program (ω × List E) ε α)
    (post : Except ε α → ω → List E → Prop) : Prop :=
  ∀ hist, ∃ new, (program (s, hist)).2.2 = hist ++ new ∧
    post (program (s, hist)).1 (program (s, hist)).2.1 (calls ++ new)

def added (program : Program (ω × List E) ε α) (s : ω) : List E := (program (s, [])).2.2

variable {calls : List E} {s : ω} {post : Except ε α → ω → List E → Prop}

variable {program : Program (ω × List E) ε α} {next : β → Program (ω × List E) ε α}

theorem Adds.run (h : Adds calls s program post) :
    post (program (s, [])).1 (program (s, [])).2.1 (calls ++ program.added s) := by
  obtain ⟨new, hnew, hpost⟩ := h []
  rw [nil_append] at hnew
  unfold added
  rw [hnew]
  exact hpost

theorem Adds.of_run (h : Adds [] s program post) {out : Except ε α} {s' : ω} {now : List E}
    (hrun : program (s, []) = (out, s', now)) : post out s' now := by
  have hpost := h.run
  unfold added at hpost
  rw [hrun, nil_append] at hpost
  exact hpost

theorem Adds.mono {post' : Except ε α → ω → List E → Prop} (h : Adds calls s program post)
    (himp : ∀ out s' now, post out s' now → post' out s' now) :
    Adds calls s program post' := by
  intro hist
  obtain ⟨new, hnew, hpost⟩ := h hist
  exact ⟨new, hnew, himp _ _ _ hpost⟩

theorem adds_pure {a : α} (h : post (.ok a) s calls) : Adds calls s (pure a) post := by
  refine fun hist => ⟨[], (append_nil hist).symm, ?_⟩
  rw [append_nil]
  exact h

theorem adds_fail {e : ε} (h : post (.error e) s calls) : Adds calls s (fail e) post := by
  refine fun hist => ⟨[], (append_nil hist).symm, ?_⟩
  rw [append_nil]
  exact h

theorem adds_ofExcept {out : Except ε α} (h : post out s calls) :
    Adds calls s (ofExcept out) post := by
  cases out with
  | ok a => exact adds_pure h
  | error e => exact adds_fail h

theorem adds_bind {program : Program (ω × List E) ε β} {mid : Except ε β → ω → List E → Prop}
    (h : Adds calls s program mid)
    (hok : ∀ b s' now, mid (.ok b) s' now → Adds now s' (next b) post)
    (herr : ∀ e s' now, mid (.error e) s' now → post (.error e) s' now) :
    Adds calls s (bind program next) post := by
  intro hist
  obtain ⟨new, hnew, hmid⟩ := h hist
  unfold bind
  rcases hrun : program (s, hist) with ⟨out, s', after⟩
  rw [hrun] at hnew hmid
  dsimp only at hnew hmid
  subst hnew
  cases out with
  | error e => exact ⟨new, rfl, herr e s' _ hmid⟩
  | ok b =>
    obtain ⟨more, hmore, hpost⟩ := hok b s' _ hmid (hist ++ new)
    rw [append_assoc] at hmore hpost
    exact ⟨new ++ more, hmore, hpost⟩

theorem adds_ofExcept_bind {out : Except ε β}
    (hok : ∀ b, out = .ok b → Adds calls s (next b) post)
    (herr : ∀ e, out = .error e → post (.error e) s calls) :
    Adds calls s (bind (ofExcept out) next) post := by
  cases out with
  | ok b => exact hok b rfl
  | error e => exact adds_fail (herr e rfl)

theorem adds_ite {condition : Prop} [Decidable condition] {program' : Program (ω × List E) ε α}
    (h : condition → Adds calls s program post) (h' : ¬condition → Adds calls s program' post) :
    Adds calls s (if condition then program else program') post := by
  split
  next hc => exact h hc
  next hc => exact h' hc

theorem adds_mapError (f : ε → ε') (h : Adds calls s program post) :
    Adds calls s (mapError f program) fun out s' now =>
      ∃ inner, out = inner.mapError f ∧ post inner s' now := by
  intro hist
  obtain ⟨new, hnew, hpost⟩ := h hist
  exact ⟨new, hnew, _, rfl, hpost⟩

theorem adds_attempt (h : Adds calls s program post) :
    Adds calls s (attempt program : Program (ω × List E) ε' _) fun out s' now =>
      ∃ inner, out = .ok inner ∧ post inner s' now := by
  intro hist
  obtain ⟨new, hnew, hpost⟩ := h hist
  exact ⟨new, hnew, _, rfl, hpost⟩

theorem adds_recorded (program : Program ω ε α) (evs : Except ε α → List E) :
    Adds calls s (program.recorded evs) fun out s' now =>
      (out, s') = program s ∧ now = calls ++ evs out :=
  fun _ => ⟨_, rfl, rfl, rfl⟩

theorem adds_outside (program : Program ω ε α) :
    Adds calls s (outside program : Program (ω × List E) ε α) fun out s' now =>
      (out, s') = program s ∧ now = calls :=
  fun hist => ⟨[], (append_nil hist).symm, rfl, append_nil calls⟩

theorem adds_attempt_bind {program : Program (ω × List E) ε' β}
    {next : Except ε' β → Program (ω × List E) ε α} {mid : Except ε' β → ω → List E → Prop}
    (h : Adds calls s program mid)
    (hnext : ∀ out s' now, mid out s' now → Adds now s' (next out) post) :
    Adds calls s (bind (attempt program) next) post := by
  refine adds_bind (adds_attempt h) ?_ ?_
  · rintro out s' now ⟨_, ⟨⟩, hmid⟩
    exact hnext _ s' now hmid
  · rintro e s' now ⟨_, ⟨⟩, -⟩

end KeliNative.Program
