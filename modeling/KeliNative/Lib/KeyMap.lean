import Mathlib.Data.List.AList

/-!
# Finite maps with in-place update

Mathlib's `AList` as a hash map; `replace` writes through a `get_mut` reference.
-/

namespace KeliNative
open List

abbrev KeyMap (K V : Type) := AList (fun _ : K => V)

namespace KeyMap

variable {K V : Type} [DecidableEq K]

theorem dlookup_kreplace (a c : K) (b : V) : ∀ l : List (Sigma fun _ : K => V),
    (l.kreplace a b).dlookup c =
      if c = a then (l.dlookup a).map (fun _ => b) else l.dlookup c
  | [] => by
    simp only [List.kreplace, lookmap_nil, dlookup_nil, Option.map_none, ite_self]
  | ⟨d, v⟩ :: l => by
    have ih := dlookup_kreplace a c b l
    have hskip : ∀ (x : V) (e : K) (m : List (Sigma fun _ : K => V)), e ≠ d →
        List.dlookup e (⟨d, x⟩ :: m) = List.dlookup e m := fun x e m he =>
      dlookup_cons_ne m ⟨d, x⟩ he
    by_cases hd : a = d
    · subst hd
      have hhead : List.kreplace a b (⟨a, v⟩ :: l) = ⟨a, b⟩ :: l :=
        lookmap_cons_some _ _ (if_pos rfl)
      rw [hhead]
      by_cases hc : c = a
      · subst hc
        simp only [dlookup_cons_eq, ite_true, Option.map_some]
      · rw [if_neg hc, hskip _ _ _ hc, hskip _ _ _ hc]
    · have htail : List.kreplace a b (⟨d, v⟩ :: l) = ⟨d, v⟩ :: l.kreplace a b :=
        lookmap_cons_none _ _ (if_neg hd)
      rw [htail]
      by_cases hc : c = d
      · subst hc
        rw [dlookup_cons_eq, dlookup_cons_eq, if_neg (Ne.symm hd)]
      · rw [hskip _ _ _ hc, hskip _ _ _ hc, ih, hskip _ _ _ hd]

theorem lookup_replace_self {a : K} {v : V} {s : KeyMap K V} (h : s.lookup a = some v) (b : V) :
    (s.replace a b).lookup a = some b := by
  have hl : s.entries.dlookup a = some v := h
  show (s.entries.kreplace a b).dlookup a = some b
  rw [dlookup_kreplace, if_pos rfl, hl, Option.map_some]

theorem lookup_replace_ne {a c : K} (hc : c ≠ a) (b : V) (s : KeyMap K V) :
    (s.replace a b).lookup c = s.lookup c := by
  show (s.entries.kreplace a b).dlookup c = s.entries.dlookup c
  rw [dlookup_kreplace, if_neg hc]

theorem replace_self {a : K} {v : V} {s : KeyMap K V} (h : s.lookup a = some v) :
    s.replace a v = s := by
  apply AList.ext
  have hmem : (⟨a, v⟩ : Sigma fun _ : K => V) ∈ s.entries := of_mem_dlookup h
  exact kreplace_self s.nodupKeys hmem

theorem keys_length_erase_le (a : K) (s : KeyMap K V) :
    (s.erase a).keys.length ≤ s.keys.length := by
  rw [AList.keys_erase]
  exact length_erase_le

theorem keys_length_insert_of_mem {a : K} {s : KeyMap K V} (h : a ∈ s) (b : V) :
    (s.insert a b).keys.length = s.keys.length := by
  have hmem : a ∈ s.keys := AList.mem_keys.mp h
  rw [AList.keys_insert, length_cons, length_erase_of_mem hmem]
  have := length_pos_of_mem hmem
  omega

theorem keys_length_insert_le (a : K) (b : V) (s : KeyMap K V) :
    (s.insert a b).keys.length ≤ s.keys.length + 1 := by
  rw [AList.keys_insert, length_cons]
  have := length_erase_le (a := a) (l := s.keys)
  omega

def keysWhere (p : V → Bool) (s : KeyMap K V) : List K :=
  (s.entries.filter fun e => p e.2).map Sigma.fst

theorem mem_keysWhere {p : V → Bool} {s : KeyMap K V} {a : K} :
    a ∈ s.keysWhere p ↔ ∃ v, s.lookup a = some v ∧ p v = true := by
  simp only [keysWhere, mem_map, mem_filter]
  constructor
  · rintro ⟨⟨d, v⟩, ⟨hmem, hp⟩, rfl⟩
    exact ⟨v, mem_dlookup s.nodupKeys hmem, hp⟩
  · rintro ⟨v, hv, hp⟩
    exact ⟨⟨a, v⟩, ⟨of_mem_dlookup hv, hp⟩, rfl⟩

omit [DecidableEq K] in
theorem keysWhere_nodup (p : V → Bool) (s : KeyMap K V) : (s.keysWhere p).Nodup := by
  have hsub : (s.keysWhere p).Sublist s.keys := filter_sublist.map _
  exact hsub.nodup s.keys_nodup

def takeKeys : List K → KeyMap K V → List V × KeyMap K V
  | [], s => ([], s)
  | a :: keys, s =>
    let (values, rest) := takeKeys keys (s.erase a)
    ((s.lookup a).toList ++ values, rest)

theorem lookup_takeKeys (keys : List K) (s : KeyMap K V) (a : K) :
    (takeKeys keys s).2.lookup a = if a ∈ keys then none else s.lookup a := by
  induction keys generalizing s with
  | nil => simp only [takeKeys, not_mem_nil, ite_false]
  | cons key keys ih =>
    simp only [takeKeys, ih, mem_cons]
    by_cases hkeys : a ∈ keys
    · simp only [hkeys, or_true, ite_true]
    · by_cases ha : a = key
      · subst ha
        simp only [hkeys, ite_false, true_or, ite_true, AList.lookup_erase]
      · simp only [hkeys, ha, or_self, ite_false, AList.lookup_erase_ne ha]

theorem takeKeys_values (keys : List K) (s : KeyMap K V) (hnodup : keys.Nodup) :
    (takeKeys keys s).1 = keys.filterMap s.lookup := by
  induction keys generalizing s with
  | nil => simp only [takeKeys, filterMap_nil]
  | cons key keys ih =>
    obtain ⟨hkey, hkeys⟩ := nodup_cons.mp hnodup
    have hrest : keys.filterMap (s.erase key).lookup = keys.filterMap s.lookup := by
      apply filterMap_congr
      intro a ha
      exact AList.lookup_erase_ne (fun h => hkey (h ▸ ha))
    simp only [takeKeys, ih (s.erase key) hkeys, hrest]
    cases h : s.lookup key with
    | none => simp only [filterMap_cons, h, Option.toList_none, nil_append]
    | some v => simp only [filterMap_cons, h, Option.toList_some, singleton_append]

theorem lookup_takeKeys_keysWhere (p : V → Bool) (s : KeyMap K V) (a : K) :
    (takeKeys (s.keysWhere p) s).2.lookup a =
      match s.lookup a with
      | some v => if p v then none else some v
      | none => none := by
  rw [lookup_takeKeys]
  cases h : s.lookup a with
  | none => exact ite_self _
  | some v =>
    by_cases hp : p v = true
    · have hmem : a ∈ s.keysWhere p := mem_keysWhere.mpr ⟨v, h, hp⟩
      simp only [hmem, ite_true, hp]
    · have hmem : a ∉ s.keysWhere p := by
        intro hmem
        obtain ⟨w, hw, hpw⟩ := mem_keysWhere.mp hmem
        rw [h] at hw
        cases hw
        exact hp hpw
      simp only [hmem, ite_false, hp, Bool.false_eq_true]

theorem keys_length_takeKeys_le (keys : List K) (s : KeyMap K V) :
    (takeKeys keys s).2.keys.length ≤ s.keys.length := by
  induction keys generalizing s with
  | nil => exact le_refl _
  | cons key keys ih => exact le_trans (ih (s.erase key)) (keys_length_erase_le key s)

end KeyMap

end KeliNative
