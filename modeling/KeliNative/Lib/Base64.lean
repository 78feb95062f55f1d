import Mathlib.Data.List.Basic

/-!
# Base64

The common forms: two alphabets, with and without padding. No text is the encoding of two
different lists of bytes, in whatever forms.
-/

namespace KeliNative.Base64
open List

def sextets : List UInt8 → List ℕ
  | a :: b :: c :: rest =>
    a.toNat / 4 :: (a.toNat % 4 * 16 + b.toNat / 16) :: (b.toNat % 16 * 4 + c.toNat / 64) ::
      c.toNat % 64 :: sextets rest
  | [a, b] => [a.toNat / 4, a.toNat % 4 * 16 + b.toNat / 16, b.toNat % 16 * 4]
  | [a] => [a.toNat / 4, a.toNat % 4 * 16]
  | [] => []

structure Form where
  urlSafe : Bool
  padded : Bool
  deriving DecidableEq

def digit (urlSafe : Bool) (v : ℕ) : Char :=
  if v < 26 then Char.ofNat (v + 65)
  else if v < 52 then Char.ofNat (v + 71)
  else if v < 62 then Char.ofNat (v - 4)
  else if v = 62 then if urlSafe then '-' else '+'
  else if urlSafe then '_' else '/'

/-- What a character stands for, in either alphabet. -/
def value (c : Char) : ℕ :=
  if c.isUpper then c.toNat - 65
  else if c.isLower then c.toNat - 71
  else if c.isDigit then c.toNat + 4
  else if c = '-' ∨ c = '+' then 62
  else 63

def padding (form : Form) (bytes : List UInt8) : List Char :=
  if form.padded then replicate ((3 - bytes.length % 3) % 3) '=' else []

def encode (form : Form) (bytes : List UInt8) : String :=
  String.ofList ((sextets bytes).map (digit form.urlSafe) ++ padding form bytes)

variable (form : Form) (bytes : List UInt8)

theorem value_digit : ∀ urlSafe, ∀ v < 64, value (digit urlSafe v) = v := by decide

theorem digit_ne : ∀ urlSafe, ∀ v < 64, ['=', ':', '@', '#', '?'].all (digit urlSafe v != ·) := by
  decide

theorem digit_common : ∀ v < 64, digit false v = digit true v ↔ v < 62 := by decide

theorem digit_ne_slash : ∀ v < 62, digit false v ≠ '/' := by decide

theorem sextets_lt : ∀ v ∈ sextets bytes, v < 64 := by
  fun_induction sextets bytes with
  | case1 a b c rest ih =>
    have ha := a.toNat_lt
    have hb := b.toNat_lt
    have hc := c.toNat_lt
    simp only [mem_cons, forall_eq_or_imp]
    exact ⟨by omega, by omega, by omega, by omega, ih⟩
  | case2 a b =>
    have ha := a.toNat_lt
    have hb := b.toNat_lt
    simp only [mem_cons, not_mem_nil, or_false, forall_eq_or_imp, forall_eq]
    omega
  | case3 a =>
    have ha := a.toNat_lt
    simp only [mem_cons, not_mem_nil, or_false, forall_eq_or_imp, forall_eq]
    omega
  | case4 => simp

/-- The numbers of sextets agree up to three bytes, and the sextets have all the bits. -/
theorem sextets_injective : ∀ bytes bytes', sextets bytes = sextets bytes' → bytes = bytes'
  | a :: b :: c :: rest, a' :: b' :: c' :: rest', h => by
    simp only [sextets, cons.injEq] at h
    have hb := b.toNat_lt
    have hb' := b'.toNat_lt
    have hc := c.toNat_lt
    have hc' := c'.toNat_lt
    rw [sextets_injective rest rest' h.2.2.2.2, UInt8.toNat_inj.mp (show a.toNat = a'.toNat by omega),
      UInt8.toNat_inj.mp (show b.toNat = b'.toNat by omega),
      UInt8.toNat_inj.mp (show c.toNat = c'.toNat by omega)]
  | [a, b], [a', b'], h => by
    simp only [sextets, cons.injEq] at h
    have hb := b.toNat_lt
    have hb' := b'.toNat_lt
    rw [UInt8.toNat_inj.mp (show a.toNat = a'.toNat by omega),
      UInt8.toNat_inj.mp (show b.toNat = b'.toNat by omega)]
  | [a], [a'], h => by
    simp only [sextets, cons.injEq] at h
    rw [UInt8.toNat_inj.mp (show a.toNat = a'.toNat by omega)]
  | [], [], _ => rfl
  | _ :: _ :: _ :: _, [_, _], h | _ :: _ :: _ :: _, [_], h | _ :: _ :: _ :: _, [], h
  | [_, _], _ :: _ :: _ :: _, h | [_, _], [_], h | [_, _], [], h
  | [_], _ :: _ :: _ :: _, h | [_], [_, _], h | [_], [], h
  | [], _ :: _ :: _ :: _, h | [], [_, _], h | [], [_], h => by simp [sextets] at h

/-- The text has no character with a meaning in a link but the slash. -/
theorem not_mem_encode {c : Char} (hc : c ∈ [':', '@', '#', '?']) :
    c ∉ (encode form bytes).toList := by
  rw [encode, String.toList_ofList, mem_append, not_or]
  constructor
  · intro hmem
    obtain ⟨v, hv, heq⟩ := mem_map.mp hmem
    have hne := all_eq_true.mp (digit_ne form.urlSafe v (sextets_lt bytes v hv)) c
      (mem_cons_of_mem _ hc)
    exact bne_iff_ne.mp hne heq
  · intro hmem
    unfold padding at hmem
    split at hmem
    · obtain rfl := (mem_replicate.mp hmem).2
      revert hc
      decide
    · exact not_mem_nil hmem

theorem map_value_encode :
    ((encode form bytes).toList.filter (· != '=')).map value = sextets bytes := by
  have hdigits : ∀ c ∈ (sextets bytes).map (digit form.urlSafe), (c != '=') = true := by
    intro c hc
    obtain ⟨v, hv, rfl⟩ := mem_map.mp hc
    exact all_eq_true.mp (digit_ne _ v (sextets_lt bytes v hv)) _ mem_cons_self
  have hpad : (padding form bytes).filter (· != '=') = [] := by
    unfold padding
    split <;> simp
  rw [encode, String.toList_ofList, filter_append, hpad, append_nil, filter_eq_self.mpr hdigits,
    map_map]
  refine (map_congr_left fun v hv => ?_).trans (map_id _)
  exact value_digit form.urlSafe v (sextets_lt bytes v hv)

variable {form bytes}

theorem encode_injective {form' : Form} {bytes' : List UInt8}
    (h : encode form bytes = encode form' bytes') : bytes = bytes' := by
  apply sextets_injective
  rw [← map_value_encode form, ← map_value_encode form', h]

variable (form bytes)

theorem encode_cons (byte : UInt8) (rest : List UInt8) : ∃ chars,
    (encode form (byte :: rest)).toList = digit form.urlSafe (byte.toNat / 4) :: chars := by
  rw [encode, String.toList_ofList]
  match rest with
  | [] | [_] | _ :: _ :: _ => exact ⟨_, rfl⟩

/-- Where two forms write the same text. -/
theorem encode_eq_iff (form' : Form) : encode form bytes = encode form' bytes ↔
    (form.urlSafe = form'.urlSafe ∨ ∀ v ∈ sextets bytes, v < 62) ∧
      (form.padded = form'.padded ∨ bytes.length % 3 = 0) := by
  have hcommon : (sextets bytes).map (digit false) = (sextets bytes).map (digit true) ↔
      ∀ v ∈ sextets bytes, v < 62 := by
    rw [map_inj_left]
    exact forall₂_congr fun v hv => digit_common v (sextets_lt bytes v hv)
  have hdigits : (sextets bytes).map (digit form.urlSafe) =
      (sextets bytes).map (digit form'.urlSafe) ↔
        form.urlSafe = form'.urlSafe ∨ ∀ v ∈ sextets bytes, v < 62 := by
    cases form.urlSafe <;> cases form'.urlSafe
    · simp
    · simpa using hcommon
    · simpa [eq_comm] using hcommon
    · simp
  have hpad : padding form bytes = padding form' bytes ↔
      form.padded = form'.padded ∨ bytes.length % 3 = 0 := by
    have hnone : (3 - bytes.length % 3) % 3 = 0 ↔ bytes.length % 3 = 0 := by omega
    unfold padding
    cases form.padded <;> cases form'.padded <;> simp [hnone]
  rw [← hdigits, ← hpad, encode, encode, String.ofList_inj]
  exact ⟨fun h => append_inj h (by rw [length_map, length_map]), fun ⟨h, h'⟩ => by rw [h, h']⟩

end KeliNative.Base64
