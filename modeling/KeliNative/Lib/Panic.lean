import Mathlib.Algebra.Group.Nat.Defs
import Mathlib.Data.Nat.Basic

/-!
# Code that may panic

A panic is `none`; an error is an ordinary outcome.
-/

namespace KeliNative

abbrev Panicking (ε α : Type) := ExceptT ε Option α

namespace Panicking

variable {ε α β : Type}

def index (list : List β) (i : ℕ) : Panicking ε β := ExceptT.mk (list[i]?.map .ok)

def slice (list : List β) (start stop : ℕ) : Panicking ε (List β) :=
  if start ≤ stop ∧ stop ≤ list.length then pure ((list.take stop).drop start) else ExceptT.mk none

def subtract (a b : ℕ) : Panicking ε ℕ := if b ≤ a then pure (a - b) else ExceptT.mk none

/-- Whether an addition that does not fit panics or wraps (`overflow-checks`). -/
inductive OverflowChecks where
  | on
  | off
  deriving DecidableEq

def addUsize (checks : OverflowChecks) (a b : ℕ) : Panicking ε ℕ :=
  if a + b < 2 ^ 64 then pure (a + b)
  else match checks with
    | .on => ExceptT.mk none
    | .off => pure ((a + b) % 2 ^ 64)

def returned (outcome : Except ε α) : Panicking ε α := ExceptT.mk (some outcome)

theorem index_eq {list : List β} {i : ℕ} (h : i < list.length) :
    index (ε := ε) list i = pure list[i] := by
  rw [index, List.getElem?_eq_getElem h]
  rfl

theorem slice_eq {list : List β} {start stop : ℕ} (h : start ≤ stop) (hstop : stop ≤ list.length) :
    slice (ε := ε) list start stop = pure ((list.take stop).drop start) := if_pos ⟨h, hstop⟩

theorem subtract_eq {a b : ℕ} (h : b ≤ a) : subtract (ε := ε) a b = pure (a - b) := if_pos h

theorem addUsize_eq {checks : OverflowChecks} {a b : ℕ} (h : a + b < 2 ^ 64) :
    addUsize (ε := ε) checks a b = pure (a + b) := if_pos h

theorem addUsize_overflow {a b : ℕ} (h : 2 ^ 64 ≤ a + b) :
    addUsize (ε := ε) .on a b = ExceptT.mk none := if_neg (Nat.not_lt.mpr h)

theorem returned_ok (a : α) : returned (ε := ε) (.ok a) = pure a := rfl

end Panicking

end KeliNative
