import Mathlib.Data.UInt

/-!
# Sequence numbers modulo 2^32

A position is a natural number; its sequence number is `base + ofNat position`.
-/

namespace KeliNative.SeqNum

def offset (base x : UInt32) : ℕ := (x - base).toNat

/-- Membership of `a` in the circular interval from `lo` forward to `hi`,
written with plain comparisons and a case for the interval that wraps. -/
def between (lo hi a : UInt32) : Bool :=
  if lo ≤ hi then decide (lo ≤ a) && decide (a ≤ hi) else decide (lo ≤ a) || decide (a ≤ hi)

theorem offset_self (base : UInt32) : offset base base = 0 := by
  simp [offset]

theorem ofNat_inj {n m : ℕ} (hn : n < 2 ^ 32) (hm : m < 2 ^ 32)
    (h : UInt32.ofNat n = UInt32.ofNat m) : n = m := by
  have ht := congrArg UInt32.toNat h
  simp only [UInt32.toNat_ofNat'] at ht
  omega

theorem offset_ofNat (base : UInt32) (n : ℕ) : offset base (base + UInt32.ofNat n) = n % 2 ^ 32 := by
  have h : base + UInt32.ofNat n - base = UInt32.ofNat n := by grind
  rw [offset, h, UInt32.toNat_ofNat']

theorem offset_add_ofNat_le (base x : UInt32) (n : ℕ) :
    offset base (x + UInt32.ofNat n) ≤ offset base x + n := by
  have h : x + UInt32.ofNat n - base = (x - base) + UInt32.ofNat n := by grind
  rw [offset, h, offset, UInt32.toNat_add, UInt32.toNat_ofNat']
  have hmod := Nat.mod_le n (2 ^ 32)
  exact le_trans (Nat.mod_le _ _) (by omega)

theorem offset_triangle (base x y : UInt32) : offset base y ≤ offset base x + offset x y := by
  have hle := offset_add_ofNat_le base x (offset x y)
  have hy : x + UInt32.ofNat (offset x y) = y := by
    rw [offset, UInt32.ofNat_toNat]
    grind
  rwa [hy] at hle

theorem toNat_sub_eq (a b : UInt32) : (a - b).toNat = (a.toNat + (2 ^ 32 - b.toNat)) % 2 ^ 32 := by
  rw [UInt32.toNat_sub]
  congr 1
  omega

theorem between_iff (lo hi a : UInt32) : between lo hi a = true ↔ offset lo a ≤ offset lo hi := by
  have hl := lo.toNat_lt
  have hh := hi.toNat_lt
  have ha := a.toNat_lt
  simp only [between, offset, toNat_sub_eq, UInt32.le_iff_toNat_le]
  split
  · simp only [Bool.and_eq_true, decide_eq_true_eq]
    omega
  · simp only [Bool.or_eq_true, decide_eq_true_eq]
    omega

theorem between_right (lo hi : UInt32) : between lo hi hi = true := by
  rw [between_iff]

end KeliNative.SeqNum
