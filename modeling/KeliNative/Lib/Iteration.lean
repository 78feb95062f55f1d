import Mathlib.Data.Nat.Basic

/-!
# Loops that may panic or not end

One iteration of a loop goes on with a new state, returns or panics.
-/

namespace KeliNative

variable {σ ρ : Type}

inductive Iteration (σ ρ : Type) where
  | next (state : σ)
  | returned (outcome : ρ)
  | panicked
  deriving DecidableEq

namespace Iteration

def iterate (step : σ → Iteration σ ρ) : ℕ → σ → Iteration σ ρ
  | 0, s => .next s
  | n + 1, s =>
    match step s with
    | .next s' => iterate step n s'
    | .returned outcome => .returned outcome
    | .panicked => .panicked

inductive Reaches (step : σ → Iteration σ ρ) (s : σ) : σ → Prop
  | refl : Reaches step s s
  | next {s' s'' : σ} (h : Reaches step s s') (hstep : step s' = .next s'') : Reaches step s s''

variable {step : σ → Iteration σ ρ} {s s' s'' : σ}

theorem iterate_next (h : step s = .next s') (n : ℕ) :
    iterate step (n + 1) s = iterate step n s' := by
  rw [iterate, h]

theorem Reaches.head (hstep : step s = .next s') (h : Reaches step s' s'') : Reaches step s s'' := by
  induction h with
  | refl => exact .next .refl hstep
  | next _ hnext ih => exact .next ih hnext

theorem iterate_of_reaches (h : Reaches step s s') :
    ∃ n, ∀ fuel, iterate step (n + fuel) s = iterate step fuel s' := by
  induction h with
  | refl => exact ⟨0, fun fuel => by rw [Nat.zero_add]⟩
  | next _ hstep ih =>
    obtain ⟨n, hn⟩ := ih
    refine ⟨n + 1, fun fuel => ?_⟩
    rw [Nat.add_assoc, Nat.add_comm 1, hn, iterate_next hstep]

theorem iterate_returned {n : ℕ} {out : ρ} (h : iterate step n s = .returned out) (more : ℕ) :
    iterate step (n + more) s = .returned out := by
  induction n generalizing s with
  | zero => cases h
  | succ n ih =>
    rw [Nat.succ_add, iterate]
    rw [iterate] at h
    cases hstep : step s with
    | next s' =>
      rw [hstep] at h
      exact ih h
    | returned out' =>
      rw [hstep] at h
      exact h
    | panicked =>
      rw [hstep] at h
      cases h

theorem not_returned_of_panicked (h : Reaches step s s') (hpanic : step s' = .panicked) (n : ℕ)
    (out : ρ) : iterate step n s ≠ .returned out := by
  intro hret
  obtain ⟨m, hm⟩ := iterate_of_reaches h
  have hmore := iterate_returned hret (m + 1)
  rw [Nat.add_comm n, Nat.add_assoc, hm, Nat.add_comm 1, iterate, hpanic] at hmore
  cases hmore

theorem iterate_of_next_self (h : step s = .next s) (n : ℕ) : iterate step n s = .next s := by
  induction n with
  | zero => rfl
  | succ n ih => rw [iterate_next h, ih]

theorem exists_stopped (measure : σ → ℕ)
    (h : ∀ {s' s''}, Reaches step s s' → step s' = .next s'' → measure s'' < measure s') :
    ∃ n, ∀ s', iterate step n s ≠ .next s' := by
  induction hm : measure s using Nat.strongRecOn generalizing s with
  | ind m ih =>
    cases hstep : step s with
    | next s' =>
      obtain ⟨n, hn⟩ := ih (measure s') (hm ▸ h .refl hstep)
        (fun hreach hnext => h (hreach.head hstep) hnext) rfl
      exact ⟨n + 1, fun s'' => iterate_next hstep n ▸ hn s''⟩
    | returned out =>
      refine ⟨1, fun s' heq => ?_⟩
      rw [iterate, hstep] at heq
      cases heq
    | panicked =>
      refine ⟨1, fun s' heq => ?_⟩
      rw [iterate, hstep] at heq
      cases heq

theorem panicked_of_iterate {n : ℕ} (h : iterate step n s = .panicked) :
    ∃ s', Reaches step s s' ∧ step s' = .panicked := by
  induction n generalizing s with
  | zero => cases h
  | succ n ih =>
    rw [iterate] at h
    cases hstep : step s with
    | next s' =>
      rw [hstep] at h
      obtain ⟨last, hreach, hpanic⟩ := ih h
      exact ⟨last, hreach.head hstep, hpanic⟩
    | returned out =>
      rw [hstep] at h
      cases h
    | panicked => exact ⟨s, .refl, hstep⟩

theorem iterate_ne_next (measure : σ → ℕ) (inv : σ → Prop)
    (hstep : ∀ {s s'}, inv s → step s = .next s' → inv s' ∧ measure s' < measure s) {n : ℕ}
    (hs : inv s) (hn : measure s < n) (s' : σ) : iterate step n s ≠ .next s' := by
  induction n generalizing s with
  | zero => omega
  | succ n ih =>
    cases hnext : step s with
    | next middle =>
      obtain ⟨hmiddle, hless⟩ := hstep hs hnext
      rw [iterate_next hnext]
      exact ih hmiddle (by omega)
    | returned out =>
      rw [iterate, hnext]
      exact nofun
    | panicked =>
      rw [iterate, hnext]
      exact nofun

theorem iterate_eq_returned {n : ℕ} {out : ρ} (h : Reaches step s s')
    (hstep : step s' = .returned out) (hstops : ∀ s'', iterate step n s ≠ .next s'') :
    iterate step n s = .returned out := by
  obtain ⟨m, hm⟩ := iterate_of_reaches h
  have hret : iterate step (m + 1) s = .returned out := by
    rw [hm, iterate, hstep]
  cases hrun : iterate step n s with
  | next s'' => exact absurd hrun (hstops s'')
  | returned out' =>
    have hmore := iterate_returned hrun (m + 1)
    have hmore' := iterate_returned hret n
    rw [Nat.add_comm, hmore] at hmore'
    exact hmore'
  | panicked =>
    obtain ⟨last, hreach, hpanic⟩ := panicked_of_iterate hrun
    exact absurd hret (not_returned_of_panicked hreach hpanic (m + 1) out)

end Iteration

end KeliNative
