import Mathlib.Algebra.GroupWithZero.Nat
import Mathlib.Data.Nat.Basic

/-!
# One's-complement sums

Sums of 16-bit words with end-around carry, as checksums of network packets take them.
-/

namespace KeliNative.OnesComplement
open List

/-- Addition of 16-bit words; a carry out of the top is added at the bottom. -/
def add (a b : ℕ) : ℕ := (a + b) % 65536 + (a + b) / 65536

def sum (words : List ℕ) : ℕ := words.foldl add 0

/-- The words of a byte string, most significant byte first; an odd last byte is padded with a
zero byte. -/
def words : List UInt8 → List ℕ
  | b0 :: b1 :: rest => (b0.toNat * 256 + b1.toNat) :: words rest
  | [last] => [last.toNat * 256]
  | [] => []

/-- The representative of `n` modulo `0xffff` among `1 .. 0xffff`; zero stays zero. -/
def residue (n : ℕ) : ℕ := if n = 0 then 0 else (n - 1) % 65535 + 1

theorem residue_le (n : ℕ) : residue n ≤ 65535 := by
  unfold residue
  split <;> omega

theorem add_residue (a b : ℕ) (hb : b ≤ 65535) : add (residue a) b = residue (a + b) := by
  unfold add residue
  split
  next ha =>
    subst ha
    split <;> omega
  next ha =>
    rw [if_neg (by omega)]
    omega

theorem eq_residue {n r : ℕ} (hmod : r % 65535 = n % 65535) (hle : r ≤ 65535)
    (hzero : r = 0 ↔ n = 0) : r = residue n := by
  unfold residue
  split
  next hn => exact hzero.mpr hn
  next hn =>
    have hr : r ≠ 0 := mt hzero.mp hn
    omega

theorem foldl_add_residue (list : List ℕ) (h : ∀ w ∈ list, w ≤ 65535) (start : ℕ) :
    list.foldl add (residue start) = residue (start + list.sum) := by
  induction list generalizing start with
  | nil => rfl
  | cons w rest ih =>
    have hw : w ≤ 65535 := h w mem_cons_self
    have hrest : ∀ v ∈ rest, v ≤ 65535 := fun v hv => h v (mem_cons_of_mem w hv)
    rw [foldl_cons, add_residue start w hw, ih hrest, sum_cons, Nat.add_assoc]

theorem sum_eq_residue {list : List ℕ} (h : ∀ w ∈ list, w ≤ 65535) :
    sum list = residue list.sum := by
  have hfold := foldl_add_residue list h 0
  rwa [Nat.zero_add] at hfold

theorem words_le (bytes : List UInt8) : ∀ w ∈ words bytes, w ≤ 65535 := by
  induction bytes using words.induct with
  | case1 b0 b1 rest ih =>
    intro w hw
    rcases mem_cons.mp hw with rfl | hw
    · have h0 := b0.toNat_lt
      have h1 := b1.toNat_lt
      omega
    · exact ih w hw
  | case2 last =>
    intro w hw
    rw [mem_singleton.mp hw]
    have hlast := last.toNat_lt
    omega
  | case3 => exact nofun

theorem words_append {front : List UInt8} (heven : front.length % 2 = 0) (back : List UInt8) :
    words (front ++ back) = words front ++ words back := by
  induction front using words.induct with
  | case1 b0 b1 rest ih =>
    simp only [length_cons] at heven
    simp only [cons_append, words, ih (by omega)]
  | case2 last => simp only [length_singleton] at heven; omega
  | case3 => rfl

theorem words_sum_le (bytes : List UInt8) : 2 * (words bytes).sum ≤ 65535 * (bytes.length + 1) := by
  induction bytes using words.induct with
  | case1 b0 b1 rest ih =>
    have h0 := b0.toNat_lt
    have h1 := b1.toNat_lt
    simp only [words, sum_cons, length_cons]
    omega
  | case2 last =>
    have hlast := last.toNat_lt
    simp only [words, sum_cons, sum_nil, length_cons, length_nil]
    omega
  | case3 => exact Nat.zero_le _

theorem residue_add_complement (n : ℕ) : residue (n + (65535 - residue n)) = 65535 := by
  unfold residue
  split
  next hn =>
    subst hn
    rfl
  next hn =>
    rw [if_neg (by omega)]
    omega

theorem residue_add_ones {n : ℕ} (h : residue n = 65535) : residue (n + 65535) = 65535 := by
  unfold residue at h ⊢
  rw [if_neg (by omega)]
  split at h <;> omega

end KeliNative.OnesComplement
