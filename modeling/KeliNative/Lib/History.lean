import Mathlib.Data.List.Infix

/-!
# Properties of every moment of a history

`Always P`: after every event. `AtEach Q`: of every event and the past it happened in.
-/

namespace KeliNative
open List

variable {E : Type} {P P' : List E → Prop}

def Always (P : List E → Prop) (history : List E) : Prop := ∀ past, past <+: history → P past

theorem always_nil : Always P [] ↔ P [] := by
  constructor
  · intro h
    exact h [] (prefix_refl [])
  · intro h past hpast
    rw [prefix_nil.mp hpast]
    exact h

theorem always_concat {history : List E} {ev : E} :
    Always P (history ++ [ev]) ↔ Always P history ∧ P (history ++ [ev]) := by
  constructor
  · intro h
    exact ⟨fun past hpast => h past (hpast.trans (prefix_append history [ev])),
      h _ (prefix_refl _)⟩
  · rintro ⟨hpast, hnow⟩ past hpre
    rcases prefix_concat_iff.mp hpre with rfl | hpre
    · exact hnow
    · exact hpast past hpre

theorem Always.now {history : List E} (h : Always P history) : P history :=
  h history (prefix_refl _)

def AtEach (Q : List E → E → Prop) (history : List E) : Prop :=
  ∀ past event, past ++ [event] <+: history → Q past event

variable {Q : List E → E → Prop}

theorem atEach_nil : AtEach Q [] := by
  intro past ev h
  exact absurd (prefix_nil.mp h) (append_ne_nil_of_right_ne_nil past (cons_ne_nil _ _))

theorem atEach_concat {history : List E} {ev : E} :
    AtEach Q (history ++ [ev]) ↔ AtEach Q history ∧ Q history ev := by
  constructor
  · intro h
    exact ⟨fun past earlier hpast => h past earlier (hpast.trans (prefix_append _ _)),
      h history ev (prefix_refl _)⟩
  · rintro ⟨hpast, hnow⟩ past earlier hpre
    rcases prefix_concat_iff.mp hpre with heq | hpre
    · obtain ⟨rfl, hev⟩ := append_inj' heq rfl
      cases hev
      exact hnow
    · exact hpast past earlier hpre

end KeliNative
