import Mathlib.Algebra.BigOperators.Group.List.Lemmas
import Mathlib.Algebra.GroupWithZero.Nat

/-!
# Tallies

Counters of the distinct keys of a list, found or added one key at a time.
-/

namespace KeliNative.Tally
open List

variable {κ : Type} [DecidableEq κ] (cap : ℕ) (key : κ)

/-- Counts `key` once more, up to `cap`. -/
def bump : List (κ × ℕ) → List (κ × ℕ)
  | [] => [(key, 1)]
  | entry :: entries =>
    if entry.1 = key then (entry.1, min (entry.2 + 1) cap) :: entries else entry :: bump entries

/-- The distinct keys in the order in which they came, each with the number of times. -/
def tally (keys : List κ) : List (κ × ℕ) :=
  keys.reverse.dedup.reverse.map fun key => (key, keys.count key)

theorem bump_map (count : κ → ℕ) {distinct : List κ} (h : distinct.Nodup) :
    bump cap key (distinct.map fun key => (key, count key)) =
      if key ∈ distinct then distinct.map fun other =>
        (other, if other = key then min (count other + 1) cap else count other)
      else distinct.map (fun key => (key, count key)) ++ [(key, 1)] := by
  induction distinct with
  | nil => rfl
  | cons first distinct ih =>
    obtain ⟨hfirst, hrest⟩ := nodup_cons.mp h
    rw [map_cons, bump]
    by_cases hkey : first = key
    · have hothers : ∀ other ∈ distinct, other ≠ key := by grind
      simp +contextual [hkey, hothers]
    · simp only [hkey, if_false, ih hrest, mem_cons, Ne.symm hkey, false_or]
      split <;> simp [hkey]

theorem bump_tally {keys : List κ} (hcap : keys.length < cap) :
    bump cap key (tally keys) = tally (keys ++ [key]) := by
  have hle := keys.count_le_length (a := key)
  unfold tally
  rw [bump_map cap key _ (by simp [nodup_dedup]), reverse_concat]
  by_cases hkey : key ∈ keys
  · rw [if_pos (by simpa using hkey), dedup_cons_of_mem (by simpa using hkey)]
    refine map_congr_left fun other _ => ?_
    by_cases hother : other = key
    · simp [hother]
      omega
    · simp [hother, Ne.symm hother]
  · have hnew := count_eq_zero.mpr hkey
    rw [if_neg (by simpa using hkey), dedup_cons_of_notMem (by simpa using hkey)]
    simp only [reverse_cons, map_append, map_cons, map_nil, count_append]
    refine congrArg₂ _ (map_congr_left fun other hmem => ?_) (by simp [hnew])
    have hne : key ≠ other := by
      rintro rfl
      simp [hkey] at hmem
    simp [hne]

/-- One entry for each distinct key, and all of them together count the keys. -/
structure Tallies (entries : List (κ × ℕ)) (keys : List κ) : Prop where
  perm : entries.Perm (keys.dedup.map fun key => (key, keys.count key))
  sum : (entries.map Prod.snd).sum = keys.length

theorem tallies {entries : List (κ × ℕ)} {keys : List κ} (h : entries.Perm (tally keys)) :
    Tallies entries keys := by
  have hkeys : keys.reverse.dedup.reverse.Perm keys.dedup := by
    rw [perm_ext_iff_of_nodup (by simp [nodup_dedup]) (nodup_dedup keys)]
    simp
  have hperm := h.trans (hkeys.map _)
  refine ⟨hperm, ?_⟩
  rw [(hperm.map _).sum_eq, map_map]
  exact sum_map_count_dedup_eq_length keys

end KeliNative.Tally
