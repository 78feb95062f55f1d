import Mathlib.Data.List.Basic
import Mathlib.Logic.Function.Basic

/-!
# Layered maps

A later entry of a layer replaces an earlier one; a lookup walks an order of layers.
-/

namespace KeliNative.Layers
open List

variable {κ α : Type} [DecidableEq κ]

def fillFrom (slots : κ → Option α) (entries : List (κ × α)) : κ → Option α :=
  entries.foldl (fun slots entry => Function.update slots entry.1 (some entry.2)) slots

def fill (entries : List (κ × α)) : κ → Option α := fillFrom (fun _ => none) entries

def find (order : List κ) (slots : κ → Option α) : Option (κ × α) :=
  order.findSome? fun layer => (slots layer).map fun value => (layer, value)

theorem fill_eq (entries : List (κ × α)) (layer : κ) :
    fill entries layer = (entries.reverse.find? (·.1 = layer)).map (·.2) := by
  unfold fill fillFrom
  rw [← foldr_reverse]
  induction entries.reverse with
  | nil => rfl
  | cons entry entries ih =>
    rw [foldr_cons, List.find?_cons]
    by_cases h : entry.1 = layer
    · subst h
      simp only [Function.update_self, decide_true, Option.map_some]
    · rw [Function.update_of_ne (Ne.symm h), ih]
      simp only [h, decide_false]

theorem fill_isSome_iff {entries : List (κ × α)} {layer : κ} :
    (fill entries layer).isSome ↔ ∃ entry ∈ entries, entry.1 = layer := by
  rw [fill_eq, Option.isSome_map, List.find?_isSome]
  simp only [mem_reverse, decide_eq_true_eq]

theorem fill_ne_none {entries : List (κ × α)} {entry : κ × α} (h : entry ∈ entries) :
    fill entries entry.1 ≠ none :=
  Option.isSome_iff_ne_none.mp (fill_isSome_iff.mpr ⟨entry, h, rfl⟩)

omit [DecidableEq κ] in
theorem find_eq_none_iff {order : List κ} {slots : κ → Option α} :
    find order slots = none ↔ ∀ layer ∈ order, slots layer = none := by
  unfold find
  simp only [List.findSome?_eq_none_iff, Option.map_eq_none_iff]

theorem find_eq_some_iff {order : List κ} {slots : κ → Option α} {layer : κ} {value : α} :
    find order slots = some (layer, value) ↔
      layer ∈ order ∧ slots layer = some value ∧
        ∀ other, order.idxOf other < order.idxOf layer → slots other = none := by
  unfold find
  rw [List.findSome?_eq_some_iff]
  constructor
  · rintro ⟨before, found, after, rfl, hfound, hbef⟩
    obtain ⟨value', hval, heq⟩ := Option.map_eq_some_iff.mp hfound
    cases heq
    have hnot : layer ∉ before := by
      intro hmem
      have hnone := hbef layer hmem
      rw [hval] at hnone
      cases hnone
    refine ⟨by simp, hval, fun other hother => ?_⟩
    have hmem : other ∈ before := by
      by_contra hother'
      rw [idxOf_append_of_notMem hnot, idxOf_append_of_notMem hother',
        idxOf_cons_self] at hother
      omega
    exact Option.map_eq_none_iff.mp (hbef other hmem)
  · rintro ⟨hmem, hval, hbef⟩
    obtain ⟨before, after, rfl, hnot⟩ := eq_append_cons_of_mem hmem
    refine ⟨before, layer, after, rfl, by rw [hval]; rfl, fun other hother => ?_⟩
    refine Option.map_eq_none_iff.mpr (hbef other ?_)
    rw [idxOf_append_of_mem hother, idxOf_append_of_notMem hnot]
    have hlt := idxOf_lt_length_of_mem hother
    omega

/-- A lookup finds nothing but the first entry exactly if no layer is before the first's, and that
ends in an entry like it. -/
theorem finds_only_head_iff {order : List κ} {first : κ × α} {rest : List (κ × α)} :
    (∀ found, find order (fill (first :: rest)) = some found → found = first) ↔
      (∀ entry ∈ rest, order.idxOf first.1 ≤ order.idxOf entry.1) ∧
        (first.1 ∈ order → fill (first :: rest) first.1 = some first.2) := by
  constructor
  · intro h
    cases hfind : find order (fill (first :: rest)) with
    | none =>
      -- nothing is found: no layer of the order is filled
      rw [find_eq_none_iff] at hfind
      have hout : ∀ entry ∈ first :: rest, entry.1 ∉ order := fun entry hentry hmem =>
        fill_ne_none hentry (hfind entry.1 hmem)
      refine ⟨fun entry hentry => ?_, fun hmem => absurd hmem (hout first mem_cons_self)⟩
      apply Nat.le_of_eq
      rw [idxOf_eq_length (hout first mem_cons_self),
        idxOf_eq_length (hout entry (mem_cons_of_mem _ hentry))]
    | some found =>
      obtain rfl := h found hfind
      obtain ⟨-, hval, hbef⟩ := find_eq_some_iff.mp hfind
      refine ⟨fun entry hentry => ?_, fun _ => hval⟩
      by_contra hlt
      exact fill_ne_none (mem_cons_of_mem _ hentry) (hbef entry.1 (Nat.lt_of_not_le hlt))
  · rintro ⟨horder, hlast⟩ ⟨layer, value⟩ hfind
    obtain ⟨hmem, hval, hbef⟩ := find_eq_some_iff.mp hfind
    have hsome : (fill (first :: rest) layer).isSome := by rw [hval]; rfl
    obtain ⟨entry, hentry, rfl⟩ := fill_isSome_iff.mp hsome
    -- the first entry's layer is neither after the one found nor before it
    have hle : order.idxOf first.1 ≤ order.idxOf entry.1 := by
      rcases mem_cons.mp hentry with rfl | hentry
      · exact Nat.le_refl _
      · exact horder entry hentry
    have hge : ¬order.idxOf first.1 < order.idxOf entry.1 := fun hlt =>
      fill_ne_none mem_cons_self (hbef first.1 hlt)
    have heq : first.1 = entry.1 := by
      have hfirst : first.1 ∈ order :=
        idxOf_lt_length_iff.mp (Nat.lt_of_le_of_lt hle (idxOf_lt_length_of_mem hmem))
      have hidx : order.idxOf first.1 = order.idxOf entry.1 := by omega
      exact (idxOf_inj hfirst).mp hidx
    rw [← heq] at hval hmem ⊢
    rw [hlast hmem] at hval
    cases hval
    rfl

end KeliNative.Layers
