import Mathlib.Data.List.Infix

/-!
# Taking items off a growing buffer

A decoder takes items off the front of its buffer and keeps what is left.
-/

namespace KeliNative.Incremental
open List

variable {α β ε : Type}

def drain (take : List β → Except ε (Option (α × List β))) :
    ℕ → List β → List α × Except ε (List β)
  | 0, buffer => ([], .ok buffer)
  | fuel + 1, buffer =>
    match take buffer with
    | .error error => ([], .error error)
    | .ok none => ([], .ok buffer)
    | .ok (some (item, rest)) => (item :: (drain take fuel rest).1, (drain take fuel rest).2)

/-- The decoder takes an encoded item off the front of any input, and nothing off a part of one. -/
structure Takes (take : List β → Except ε (Option (α × List β))) (encode : α → List β)
    (item : α) : Prop where
  whole : ∀ rest, take (encode item ++ rest) = .ok (some (item, rest))
  part : ∀ front, front <+: encode item → front ≠ encode item → take front = .ok none

variable {take : List β → Except ε (Option (α × List β))} {encode : α → List β}

theorem drain_eq {items : List α} (hnil : take [] = .ok none)
    (htakes : ∀ item ∈ items, Takes take encode item) (hne : ∀ item ∈ items, encode item ≠ []) :
    ∀ {fuel : ℕ} {buf later : List β}, buf.length < fuel →
      buf ++ later = items.flatMap encode →
      ∃ taken left rest, items = taken ++ left ∧ drain take fuel buf = (taken, .ok rest) ∧
        rest ++ later = left.flatMap encode ∧ (later = [] → left = []) := by
  induction items with
  | nil =>
    intro fuel buf later hfuel hin
    obtain ⟨rfl, rfl⟩ := append_eq_nil_iff.mp hin
    obtain ⟨fuel, rfl⟩ := Nat.exists_eq_add_one_of_ne_zero (Nat.ne_zero_of_lt hfuel)
    refine ⟨[], [], [], rfl, ?_, rfl, fun _ => rfl⟩
    rw [drain, hnil]
  | cons item items ih =>
    intro fuel buf later hfuel hin
    obtain ⟨fuel, rfl⟩ := Nat.exists_eq_add_one_of_ne_zero (Nat.ne_zero_of_lt hfuel)
    have hitem := htakes item mem_cons_self
    rw [flatMap_cons] at hin
    by_cases hwhole : encode item <+: buf
    · -- the item is complete
      obtain ⟨rest, rfl⟩ := hwhole
      rw [append_assoc, append_cancel_left_eq] at hin
      have hpos := length_pos_of_ne_nil (hne item mem_cons_self)
      have hfuel' : rest.length < fuel := by
        rw [length_append] at hfuel
        omega
      obtain ⟨taken, left, rest', hitems, hdrain, hrest, hleft⟩ :=
        ih (fun item hmem => htakes item (mem_cons_of_mem _ hmem))
          (fun item hmem => hne item (mem_cons_of_mem _ hmem)) hfuel' hin
      refine ⟨item :: taken, left, rest', by rw [hitems, cons_append], ?_, hrest, hleft⟩
      rw [drain, hitem.whole]
      dsimp only
      rw [hdrain]
    · -- the buffer is a part of the item
      have hpart : buf <+: encode item := by
        have hbuf : buf <+: encode item ++ items.flatMap encode := ⟨later, hin⟩
        have henc : encode item <+: encode item ++ items.flatMap encode := prefix_append _ _
        exact ( prefix_or_prefix_of_prefix hbuf henc).resolve_right hwhole
      have hproper : buf ≠ encode item := by
        intro heq
        exact hwhole (heq ▸ prefix_refl _)
      refine ⟨[], item :: items, buf, rfl, ?_, hin, fun hlater => ?_⟩
      · rw [drain, hitem.part buf hpart hproper]
      · rw [hlater, append_nil] at hin
        exact absurd ⟨_, hin.symm⟩ hwhole

end KeliNative.Incremental
