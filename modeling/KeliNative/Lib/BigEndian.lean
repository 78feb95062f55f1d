import Mathlib.Data.UInt

/-!
# Big-endian words

Network byte order as digits base 256, so that round trips are `omega` facts.
-/

namespace KeliNative.BigEndian

def be16 (w : UInt16) : List UInt8 :=
  [UInt8.ofNat (w.toNat / 256), UInt8.ofNat w.toNat]

def be32 (w : UInt32) : List UInt8 :=
  [UInt8.ofNat (w.toNat / 16777216), UInt8.ofNat (w.toNat / 65536),
   UInt8.ofNat (w.toNat / 256), UInt8.ofNat w.toNat]

def ofBe16 (b0 b1 : UInt8) : UInt16 := UInt16.ofNat (b0.toNat * 256 + b1.toNat)

def ofBe32 (b0 b1 b2 b3 : UInt8) : UInt32 :=
  UInt32.ofNat (b0.toNat * 16777216 + b1.toNat * 65536 + b2.toNat * 256 + b3.toNat)

def be64 (w : UInt64) : List UInt8 :=
  be32 (UInt32.ofNat (w.toNat / 4294967296)) ++ be32 (UInt32.ofNat w.toNat)

def ofBe64 (bytes : List UInt8) : UInt64 :=
  let word (start : ℕ) := ofBe32 (bytes.getD start 0) (bytes.getD (start + 1) 0)
    (bytes.getD (start + 2) 0) (bytes.getD (start + 3) 0)
  UInt64.ofNat ((word 0).toNat * 4294967296 + (word 4).toNat)

theorem be16_length (w : UInt16) : (be16 w).length = 2 := rfl

theorem be32_length (w : UInt32) : (be32 w).length = 4 := rfl

@[simp] theorem ofBe16_digits (w : UInt16) :
    ofBe16 (UInt8.ofNat (w.toNat / 256)) (UInt8.ofNat w.toNat) = w := by
  apply UInt16.toNat_inj.mp
  have hw := w.toNat_lt
  simp only [ofBe16, UInt16.toNat_ofNat', UInt8.toNat_ofNat']
  omega

theorem be16_read {n : ℕ} (h : n < 65536) :
    (ofBe16 (UInt8.ofNat ((UInt16.ofNat n).toNat / 256)) (UInt8.ofNat (UInt16.ofNat n).toNat)).toNat =
      n := by
  rw [ofBe16_digits, UInt16.toNat_ofNat', Nat.mod_eq_of_lt h]

theorem be16_ofBe16 (b0 b1 : UInt8) : be16 (ofBe16 b0 b1) = [b0, b1] := by
  have h0 := b0.toNat_lt
  have h1 := b1.toNat_lt
  have hhigh : (b0.toNat * 256 + b1.toNat) % 2 ^ 16 / 256 = b0.toNat := by omega
  have hlow : UInt8.ofNat ((b0.toNat * 256 + b1.toNat) % 2 ^ 16) = b1 := by
    apply UInt8.toNat_inj.mp
    rw [UInt8.toNat_ofNat']
    omega
  rw [be16, ofBe16, UInt16.toNat_ofNat', hhigh, hlow, UInt8.ofNat_toNat]

@[simp] theorem ofBe32_digits (w : UInt32) :
    ofBe32 (UInt8.ofNat (w.toNat / 16777216)) (UInt8.ofNat (w.toNat / 65536))
      (UInt8.ofNat (w.toNat / 256)) (UInt8.ofNat w.toNat) = w := by
  apply UInt32.toNat_inj.mp
  have hw := w.toNat_lt
  simp only [ofBe32, UInt32.toNat_ofNat', UInt8.toNat_ofNat']
  omega

theorem ofBe64_be64 (w : UInt64) : ofBe64 (be64 w) = w := by
  have hsplit : ofBe64 (be64 w) = UInt64.ofNat
      ((UInt32.ofNat (w.toNat / 4294967296)).toNat * 4294967296 + (UInt32.ofNat w.toNat).toNat) :=
    congrArg UInt64.ofNat (congrArg₂ (fun high low : UInt32 => high.toNat * 4294967296 + low.toNat)
      (ofBe32_digits _) (ofBe32_digits _))
  have hw := w.toNat_lt
  apply UInt64.toNat_inj.mp
  rw [hsplit]
  simp only [UInt32.toNat_ofNat', UInt64.toNat_ofNat']
  omega

end KeliNative.BigEndian
