import Mathlib.Data.List.Induction

/-!
# The current epoch of a trace

The entries of a trace from its last opening entry on.
-/

namespace KeliNative

variable {E : Type}

def extendEpoch (opens : E → Bool) (current : List E) (entry : E) : List E :=
  if opens entry then [entry] else if current = [] then [] else current ++ [entry]

def epoch (opens : E → Bool) (trace : List E) : List E := trace.foldl (extendEpoch opens) []

variable {opens : E → Bool} {trace : List E} {entry : E}

theorem epoch_append (opens : E → Bool) (trace : List E) (entry : E) :
    epoch opens (trace ++ [entry]) = extendEpoch opens (epoch opens trace) entry := by
  rw [epoch, List.foldl_append]
  rfl

theorem epoch_append_of_opens (h : opens entry = true) :
    epoch opens (trace ++ [entry]) = [entry] := by
  rw [epoch_append, extendEpoch, if_pos h]

theorem epoch_append_of_empty (h : opens entry = false) (hempty : epoch opens trace = []) :
    epoch opens (trace ++ [entry]) = [] := by
  rw [epoch_append, extendEpoch, h, if_neg Bool.false_ne_true, if_pos hempty]

theorem epoch_append_of_continues (h : opens entry = false) (hne : epoch opens trace ≠ []) :
    epoch opens (trace ++ [entry]) = epoch opens trace ++ [entry] := by
  rw [epoch_append, extendEpoch, h, if_neg Bool.false_ne_true, if_neg hne]

theorem epoch_of_isPrefix {earlier : List E} (h : earlier <+: epoch opens trace)
    (hne : earlier ≠ []) : ∃ before, before <+: trace ∧ epoch opens before = earlier := by
  induction trace using List.reverseRecOn with
  | nil => exact absurd (List.prefix_nil.mp h) hne
  | append_singleton trace entry ih =>
    by_cases hwhole : earlier = epoch opens (trace ++ [entry])
    · exact ⟨_, List.prefix_rfl, hwhole.symm⟩
    · have hbef : earlier <+: epoch opens trace := by
        rw [epoch_append, extendEpoch] at h hwhole
        split at h
        next hopens =>
          rw [if_pos hopens] at hwhole
          obtain ⟨rest, hrest⟩ := h
          cases earlier with
          | nil => exact absurd rfl hne
          | cons first others =>
            simp only [List.cons_append, List.cons.injEq, List.append_eq_nil_iff] at hrest
            exact absurd (by rw [hrest.1, hrest.2.1]) hwhole
        next hopens =>
          rw [if_neg hopens] at hwhole
          split at h
          · exact absurd (List.prefix_nil.mp h) hne
          next hcur =>
            rw [if_neg hcur] at hwhole
            exact (List.prefix_concat_iff.mp h).resolve_left hwhole
      obtain ⟨before, hearlier, hepoch⟩ := ih hbef
      exact ⟨before, hearlier.trans (List.prefix_append _ _), hepoch⟩

end KeliNative
