import Mathlib.Data.List.Basic

/-!
# Custody of a resource

What is acquired is released once, read off the calls that were made.
-/

namespace KeliNative

inductive Custody (R : Type) where
  | acquire (resource : R)
  | release (resource : R)
  deriving DecidableEq

namespace Custody

variable {R E : Type}

/-- Every acquisition is followed by one release of what was acquired, and there are no other
releases. -/
def Balanced (hist : List (Custody R)) : Prop :=
  ∃ held : List R, hist = held.flatMap fun resource => [.acquire resource, .release resource]

theorem balanced_nil : Balanced ([] : List (Custody R)) := ⟨[], rfl⟩

theorem balanced_pair (resource : R) : Balanced [.acquire resource, .release resource] :=
  ⟨[resource], rfl⟩

theorem not_balanced_acquire (resource : R) : ¬ Balanced [.acquire resource] := by
  rintro ⟨_ | ⟨first, rest⟩, heq⟩
  · cases heq
  · cases heq

end Custody

end KeliNative
