import Mathlib.Data.List.DropRight
import Mathlib.Data.List.TakeDrop
import KeliNative.Lib.Text

/-!
# Facts about texts

Where splits cut a text, and how its characters lie in its UTF-8 bytes.
-/

namespace KeliNative.Text
open List UInt8
open String (ofList toList_ofList ofList_toList utf8EncodeChar)

section

variable {α : Type}

structure EndsFirst (mark list : List α) : Prop where
  ends : mark <:+ list
  first : ∀ start, start <+: list → mark <:+ start → start = list

theorem EndsFirst.of_append {mark front list : List α} (h : EndsFirst mark (front ++ list))
    (hends : mark <:+ list) : EndsFirst mark list := by
  refine ⟨hends, fun start hstart hmark => ?_⟩
  have hsame := h.first (front ++ start) ((prefix_append_right_inj front).mpr hstart)
    (hmark.trans (suffix_append front start))
  exact append_cancel_left hsame

end

variable {separator : Char} {text : String}

theorem span_ne_append {before : List Char} (h : separator ∉ before) (after : List Char) :
    (before ++ separator :: after).span (· != separator) = (before, separator :: after) := by
  have hbef : ∀ c ∈ before, (c != separator) = true := by
    intro c hc
    have hne : c ≠ separator := fun heq => h (heq ▸ hc)
    simpa using hne
  rw [span_eq_takeWhile_dropWhile, takeWhile_append_of_pos hbef,
    dropWhile_append_of_pos hbef]
  simp

theorem span_ne_of_not_mem {text : List Char} (h : separator ∉ text) :
    text.span (· != separator) = (text, []) := by
  have htext : ∀ c ∈ text, (c != separator) = true := by
    intro c hc
    have hne : c ≠ separator := fun heq => h (heq ▸ hc)
    simpa using hne
  rw [span_eq_takeWhile_dropWhile, takeWhile_eq_self_iff.mpr htext,
    dropWhile_eq_nil_iff.mpr htext]

theorem splitOnce_append {before : List Char} (h : separator ∉ before) (after : List Char) :
    splitOnce separator (ofList (before ++ separator :: after)) =
      some (ofList before, ofList after) := by
  unfold splitOnce
  rw [toList_ofList, span_ne_append h]

theorem splitOnce_of_not_mem (h : separator ∉ text.toList) : splitOnce separator text = none := by
  unfold splitOnce
  rw [span_ne_of_not_mem h]

theorem rsplitOnce_append {after : List Char} (h : separator ∉ after) (before : List Char) :
    rsplitOnce separator (ofList (before ++ separator :: after)) =
      some (ofList before, ofList after) := by
  have hreverse : separator ∉ after.reverse := by simpa using h
  have hspan := span_ne_append hreverse before.reverse
  unfold rsplitOnce
  rw [toList_ofList, reverse_append, reverse_cons, append_assoc,
    singleton_append, hspan]
  simp

theorem rsplitOnce_of_not_mem (h : separator ∉ text.toList) : rsplitOnce separator text = none := by
  have hreverse : separator ∉ text.toList.reverse := by simpa using h
  unfold rsplitOnce
  rw [span_ne_of_not_mem hreverse]

theorem rsplitOnce_eq_some {before after : String}
    (h : rsplitOnce separator text = some (before, after)) :
    text.toList = before.toList ++ separator :: after.toList := by
  by_cases hmem : separator ∈ text.toList.reverse
  · obtain ⟨after', before', hcs, hafter⟩ := eq_append_cons_of_mem hmem
    have htext : text.toList = before'.reverse ++ separator :: after'.reverse := by
      have hreverse := congrArg List.reverse hcs
      simpa using hreverse
    have hnot : separator ∉ after'.reverse := by simpa using hafter
    have hsplit := rsplitOnce_append hnot before'.reverse
    rw [← htext, ofList_toList, h] at hsplit
    cases hsplit
    simpa using htext
  · rw [rsplitOnce_of_not_mem (by simpa using hmem)] at h
    contradiction

theorem stripped_eq_some_iff {start rest : String} :
    stripped start text = some rest ↔ text.toList = start.toList ++ rest.toList := by
  unfold stripped
  rw [Option.map_eq_some_iff]
  constructor
  · rintro ⟨chars, hcs, rfl⟩
    rw [toList_ofList, List.isPrefixOf?_eq_some_iff_append_eq.mp hcs]
  · intro htext
    refine ⟨rest.toList, ?_, ofList_toList⟩
    rw [List.isPrefixOf?_eq_some_iff_append_eq, htext]

theorem stripped_eq_none_iff {start : String} :
    stripped start text = none ↔ ¬ start.toList <+: text.toList := by
  rw [← Option.not_isSome_iff_eq_none, not_iff_not, Option.isSome_iff_exists]
  constructor
  · rintro ⟨rest, hrest⟩
    exact ⟨rest.toList, (stripped_eq_some_iff.mp hrest).symm⟩
  · rintro ⟨rest, hrest⟩
    refine ⟨ofList rest, stripped_eq_some_iff.mpr ?_⟩
    rw [toList_ofList, hrest]

theorem stripped_of_head {start : String} {c : Char} (hstart : start.toList = [c])
    {chars : List Char} (h : c ∉ chars.head?) : stripped start (ofList chars) = none := by
  rw [stripped_eq_none_iff, hstart, toList_ofList]
  rintro ⟨rest, rfl⟩
  exact h rfl

theorem splitOnceAt_eq_none_iff {separator : List Char} (h : separator ≠ []) (text : List Char) :
    splitOnceAt separator text = none ↔ ¬ separator <:+: text := by
  induction text with
  | nil => simp [splitOnceAt, h]
  | cons c rest ih =>
    rw [infix_cons_iff, not_or, ← ih]
    rw [splitOnceAt]
    cases hfound : separator.isPrefixOf? (c :: rest) with
    | some after =>
      have heq := List.isPrefixOf?_eq_some_iff_append_eq.mp hfound
      have hstart : separator <+: c :: rest := ⟨after, heq⟩
      simp [hstart]
    | none =>
      have hstart : ¬ separator <+: c :: rest := by
        rintro ⟨after, hafter⟩
        rw [List.isPrefixOf?_eq_some_iff_append_eq.mpr hafter] at hfound
        contradiction
      simp [hstart]

theorem trim_of_no_whitespace (h : ∀ c ∈ text.toList, isWhitespace c = false) :
    trim text = text := by
  have hstart : text.toList.dropWhile isWhitespace = text.toList := by
    cases htext : text.toList with
    | nil => rfl
    | cons c rest =>
      have hc : isWhitespace c = false := h c (by simp [htext])
      simp [hc]
  have hend : text.toList.rdropWhile isWhitespace = text.toList := by
    rw [rdropWhile_eq_self_iff]
    intro hne
    simp [h _ (getLast_mem hne)]
  unfold trim trimMatches
  rw [hstart, hend, ofList_toList]

theorem trim_padded {text before after : List Char} (hne : text ≠ [])
    (htext : ∀ c ∈ text, isWhitespace c = false) (hbef : ∀ c ∈ before, isWhitespace c = true)
    (hafter : ∀ c ∈ after, isWhitespace c = true) :
    trim (ofList (before ++ text ++ after)) = ofList text := by
  have hstart : (before ++ text ++ after).dropWhile isWhitespace = text ++ after := by
    obtain ⟨c, rest, rfl⟩ := exists_cons_of_ne_nil hne
    have hc : isWhitespace c = false := htext c mem_cons_self
    rw [append_assoc, dropWhile_append_of_pos hbef]
    simp [hc]
  have hend : (text ++ after).rdropWhile isWhitespace = text := by
    have hlast : text.rdropWhile isWhitespace = text := by
      rw [rdropWhile_eq_self_iff]
      intro hne
      simp [htext _ (getLast_mem hne)]
    have hreverse : ∀ c ∈ after.reverse, isWhitespace c = true := by simpa using hafter
    unfold List.rdropWhile at hlast ⊢
    rw [reverse_append, dropWhile_append_of_pos hreverse, hlast]
  unfold trim trimMatches
  rw [toList_ofList, hstart, hend]

theorem not_of_mem_splitOnP {α : Type} {p : α → Bool} {list piece : List α}
    (h : piece ∈ list.splitOnP p) : ∀ a ∈ piece, p a = false := by
  induction list generalizing piece with
  | nil => simp_all
  | cons b list ih =>
    rw [splitOnP_cons_eq_if_modifyHead] at h
    split_ifs at h with hb
    · rcases mem_cons.mp h with rfl | hrest
      · simp
      · exact ih hrest
    · cases hpieces : list.splitOnP p with
      | nil => exact absurd hpieces (splitOnP_ne_nil p list)
      | cons head pieces =>
        rw [hpieces] at h ih
        rcases mem_cons.mp h with rfl | hrest
        · have hhead := ih mem_cons_self
          simp_all
        · exact ih (mem_cons_of_mem _ hrest)

theorem not_isWhitespace_of_mem_splitWhitespace {word : String} (h : word ∈ splitWhitespace text) :
    ∀ c ∈ word.toList, isWhitespace c = false := by
  unfold splitWhitespace at h
  obtain ⟨piece, hpiece, rfl⟩ := mem_map.mp h
  rw [toList_ofList]
  exact not_of_mem_splitOnP (mem_of_mem_filter hpiece)

def withoutReturn (line : List Char) : List Char :=
  if line.getLast? = some '\r' then line.dropLast else line

theorem lines_append {line : List Char} (h : '\n' ∉ line) (rest : List Char) :
    lines (ofList (line ++ '\n' :: rest)) =
      ofList (withoutReturn line) :: lines (ofList rest) := by
  have hpieces := splitOn_append_cons_self_of_not_mem h rest
  have hne := splitOn_ne_nil '\n' rest
  unfold lines
  simp only [toList_ofList, hpieces, dropLast_cons_of_ne_nil hne,
    List.getLast?_cons_of_ne_nil hne]
  rfl

theorem lines_append_lines (start rest : List Char) :
    lines (ofList (start ++ '\n' :: rest)) =
      lines (ofList (start ++ ['\n'])) ++ lines (ofList rest) := by
  induction hlen : start.length using Nat.strong_induction_on generalizing start with
  | _ length ih =>
    by_cases hmem : '\n' ∈ start
    · obtain ⟨line, more, rfl, hline⟩ := eq_append_cons_of_mem hmem
      have hmore := ih more.length (by simp at hlen; omega) more rfl
      rw [append_assoc, cons_append, lines_append hline, hmore, append_assoc,
        cons_append, lines_append hline]
      rfl
    · rw [lines_append hmem, lines_append hmem]
      rfl

theorem lines_newline_ne_nil (start : List Char) : lines (ofList (start ++ ['\n'])) ≠ [] := by
  by_cases hmem : '\n' ∈ start
  · obtain ⟨line, more, rfl, hline⟩ := eq_append_cons_of_mem hmem
    rw [append_assoc, cons_append, lines_append hline]
    exact cons_ne_nil _ _
  · rw [lines_append hmem]
    exact cons_ne_nil _ _

theorem splitCrlf_append {piece : List Char} (h : ¬ ['\r', '\n'] <:+: piece) (rest : List Char) :
    splitCrlf (piece ++ '\r' :: '\n' :: rest) = piece :: splitCrlf rest := by
  induction piece with
  | nil => simp [splitCrlf]
  | cons c piece ih =>
    rw [infix_cons_iff, not_or] at h
    have hnot : ∀ tail, c = '\r' → piece ++ '\r' :: '\n' :: rest = '\n' :: tail → False := by
      intro tail hc htail
      cases piece with
      | nil => simp at htail
      | cons d piece =>
        have hd : d = '\n' := by simpa using (List.cons.inj htail).1
        exact h.1 ⟨piece, by simp [hc, hd]⟩
    rw [cons_append, splitCrlf, ih h.2]
    · rfl
    · exact hnot

theorem exists_first_pair {α : Type} [DecidableEq α] {a b : α} {list : List α}
    (h : [a, b] <:+: list) :
    ∃ before rest, list = before ++ a :: b :: rest ∧ ¬ [a, b] <:+: before := by
  induction list with
  | nil => simp at h
  | cons c list ih =>
    by_cases hhead : [a, b] <+: c :: list
    · obtain ⟨rest, hrest⟩ := hhead
      exact ⟨[], rest, hrest.symm, by simp⟩
    · rw [infix_cons_iff] at h
      obtain ⟨before, rest, rfl, hbef⟩ := ih (h.resolve_left hhead)
      refine ⟨c :: before, rest, rfl, ?_⟩
      rw [infix_cons_iff, not_or]
      refine ⟨fun hstart => hhead ?_, hbef⟩
      exact hstart.trans ⟨a :: b :: rest, by simp⟩

theorem byteArray_toList (bytes : ByteArray) : bytes.toList = bytes.data.toList := by
  have hloop : ∀ (pos : ℕ) (done : List UInt8), ByteArray.toList.loop bytes pos done =
      done.reverse ++ bytes.data.toList.drop pos := by
    intro pos done
    fun_induction ByteArray.toList.loop bytes pos done with
    | case1 pos done hlt ih =>
      have hposn : pos < bytes.data.toList.length := by simpa using hlt
      rw [ih, drop_eq_getElem_cons hposn]
      simp [ByteArray.get!, hlt]
    | case2 pos done hge =>
      rw [drop_eq_nil_of_le (by simpa using Nat.le_of_not_lt hge)]
      simp
  rw [ByteArray.toList, hloop]
  simp

theorem utf8_eq (text : String) : utf8 text = text.toList.flatMap utf8EncodeChar := by
  unfold utf8
  rw [byteArray_toList]
  show text.toByteArray.data.toList = _
  rw [← String.utf8Encode_toList, List.utf8Encode, toList_data_toByteArray]

theorem fromUtf8_eq_some_iff {bytes : List UInt8} :
    fromUtf8 bytes = some text ↔ utf8 text = bytes := by
  unfold fromUtf8 String.fromUTF8? utf8
  constructor
  · intro h
    split at h
    · cases h
      rw [byteArray_toList]
      rfl
    · contradiction
  · rintro rfl
    have hbytes : ByteArray.mk (text.toUTF8.toList).toArray = text.toByteArray := by
      rw [byteArray_toList]
      rfl
    rw [hbytes, dif_pos text.isValidUTF8]
    rfl

theorem fromUtf8_utf8 (text : String) : fromUtf8 (utf8 text) = some text :=
  fromUtf8_eq_some_iff.mpr rfl

theorem eq_of_mem_utf8EncodeChar {c : Char} {byte : UInt8} (h : byte ∈ utf8EncodeChar c)
    (hascii : byte < 128) : utf8EncodeChar c = [byte] ∧ c = Char.ofNat byte.toNat := by
  have hlt : byte.toNat < 128 := by simpa [lt_iff_toNat_lt] using hascii
  unfold utf8EncodeChar at h ⊢
  dsimp only at h ⊢
  split_ifs at h ⊢ with h1 h2 h3
  · have hbyte : byte = ofNat c.val.toNat := by simpa using h
    refine ⟨by rw [hbyte], ?_⟩
    have hnat : byte.toNat = c.toNat := by
      rw [hbyte, toNat_ofNat']
      exact Nat.mod_eq_of_lt (by omega)
    rw [hnat, Char.ofNat_toNat]
  all_goals
    simp only [mem_cons, not_mem_nil, or_false] at h
    rcases h with rfl | rfl | rfl | rfl
    all_goals
      rw [toNat_ofNat'] at hlt
      omega

theorem utf8EncodeChar_ascii {c : Char} (h : c.toNat < 128) :
    utf8EncodeChar c = [ofNat c.toNat] := by
  have hle : c.val.toNat ≤ 127 := Nat.le_of_lt_succ h
  unfold utf8EncodeChar
  dsimp only
  rw [if_pos hle]
  rfl

theorem utf8_ofList_ascii {text : List Char} (h : ∀ c ∈ text, c.toNat < 128) :
    utf8 (ofList text) = text.map fun c => ofNat c.toNat := by
  rw [utf8_eq, toList_ofList]
  induction text with
  | nil => rfl
  | cons c rest ih =>
    have hrest := ih fun c hc => h c (mem_cons_of_mem _ hc)
    rw [flatMap_cons, utf8EncodeChar_ascii (h c mem_cons_self), hrest]
    rfl

theorem utf8_crlf (text rest : List Char) :
    utf8 (ofList (text ++ '\r' :: '\n' :: rest)) =
      utf8 (ofList text) ++ 13 :: 10 :: utf8 (ofList rest) := by
  have hreturn : utf8EncodeChar '\r' = [13] := by decide +kernel
  have hfeed : utf8EncodeChar '\n' = [10] := by decide +kernel
  simp [utf8_eq, hreturn, hfeed]

theorem utf8EncodeChar_ne_nil (c : Char) : utf8EncodeChar c ≠ [] := by
  intro hnil
  have hsize := String.length_utf8EncodeChar c
  rw [hnil] at hsize
  exact absurd hsize.symm (Nat.pos_iff_ne_zero.mp c.utf8Size_pos)

theorem concat_of_utf8_concat {chars : List Char} {bytes : List UInt8} {byte : UInt8}
    (h : chars.flatMap utf8EncodeChar = bytes ++ [byte]) (hascii : byte < 128) :
    ∃ start, chars = start ++ [Char.ofNat byte.toNat] ∧
      start.flatMap utf8EncodeChar = bytes := by
  rcases eq_nil_or_concat chars with rfl | ⟨start, c, rfl⟩
  · simp at h
  · have hc := utf8EncodeChar_ne_nil c
    rw [concat_eq_append, flatMap_append, flatMap_singleton] at h
    have hlast : byte ∈ utf8EncodeChar c := by
      have hsame := congrArg List.getLast? h
      rw [List.getLast?_append_of_ne_nil _ hc, List.getLast?_concat] at hsame
      exact mem_of_getLast? hsame
    obtain ⟨hone, rfl⟩ := eq_of_mem_utf8EncodeChar hlast hascii
    rw [hone] at h
    exact ⟨start, concat_eq_append, (append_inj' h rfl).1⟩

theorem flatMap_utf8EncodeChar_eq_nil {chars : List Char}
    (h : chars.flatMap utf8EncodeChar = []) : chars = [] := by
  cases chars with
  | nil => rfl
  | cons c rest =>
    have hlen := congrArg List.length h
    have hpos := c.utf8Size_pos
    simp at hlen
    omega

theorem endsFirst_chars {mark : List Char} (hmark : ∀ c ∈ mark, c.toNat < 128)
    (h : EndsFirst (mark.map fun c => ofNat c.toNat) (utf8 text)) :
    EndsFirst mark text.toList := by
  rw [utf8_eq] at h
  have hsuf : ∀ (mark chars : List Char), (∀ c ∈ mark, c.toNat < 128) →
      (mark.map fun c => ofNat c.toNat) <:+ chars.flatMap utf8EncodeChar →
      mark <:+ chars := by
    intro mark
    induction mark using List.reverseRecOn with
    | nil => exact fun _ _ _ => nil_suffix
    | append_singleton mark c ih =>
      intro chars hascii hends
      have hc : c.toNat < 128 := hascii c (by simp)
      obtain ⟨bytes, hbytes⟩ := hends
      rw [map_append, map_singleton, ← append_assoc] at hbytes
      have hlow : ofNat c.toNat < 128 := by
        rw [lt_iff_toNat_lt, toNat_ofNat', Nat.mod_eq_of_lt (by omega)]
        exact hc
      obtain ⟨start, rfl, hstart⟩ := concat_of_utf8_concat hbytes.symm hlow
      have hchar : Char.ofNat (ofNat c.toNat).toNat = c := by
        rw [toNat_ofNat', Nat.mod_eq_of_lt (by omega), Char.ofNat_toNat]
      have hrest := ih start (fun c hc => hascii c (by simp [hc])) ⟨bytes, hstart.symm⟩
      obtain ⟨front, rfl⟩ := hrest
      exact ⟨front, by rw [hchar, append_assoc]⟩
  refine ⟨hsuf mark text.toList hmark h.ends, ?_⟩
  rintro start ⟨rest, hrest⟩ ⟨front, hfront⟩
  rw [← hrest] at h ⊢
  have hsame := h.first (start.flatMap utf8EncodeChar) (by simp) (by
    rw [← hfront, flatMap_append, ← toList_ofList (l := mark), ← utf8_eq,
      utf8_ofList_ascii hmark, toList_ofList]
    exact suffix_append _ _)
  rw [flatMap_append, self_eq_append_right] at hsame
  rw [flatMap_utf8EncodeChar_eq_nil hsame, append_nil]

section

variable {p : Char → Bool} {text : String}

theorem trimMatches_eq_self (hhead : ∀ c ∈ text.toList.head?, p c = false)
    (hlast : ∀ c ∈ text.toList.getLast?, p c = false) : trimMatches p text = text := by
  have hstart : text.toList.dropWhile p = text.toList := by
    cases htext : text.toList with
    | nil => rfl
    | cons c rest =>
      have hc : p c = false := hhead c (by rw [htext]; rfl)
      simp [hc]
  have hend : text.toList.rdropWhile p = text.toList := by
    rw [rdropWhile_eq_self_iff]
    intro hne
    have hc := hlast _ (List.getLast?_eq_some_getLast hne)
    simp [hc]
  rw [trimMatches, hstart, hend, ofList_toList]

theorem head_dropWhile {chars : List Char} {c : Char} (h : (chars.dropWhile p).head? = some c) :
    p c = false := by
  induction chars with
  | nil => simp at h
  | cons first chars ih =>
    cases hfirst : p first with
    | true =>
      rw [dropWhile_cons_of_pos hfirst] at h
      exact ih h
    | false =>
      rw [dropWhile_cons_of_neg (by simp [hfirst])] at h
      exact Option.some.inj h ▸ hfirst

theorem trimMatches_head : ∀ c ∈ (trimMatches p text).toList.head?, p c = false := by
  intro c hc
  rw [trimMatches, toList_ofList] at hc
  refine head_dropWhile (?_ : (text.toList.dropWhile p).head? = some c)
  have hsplit : (text.toList.dropWhile p).rdropWhile p ++ (text.toList.dropWhile p).rtakeWhile p =
      text.toList.dropWhile p := rdropWhile_append_rtakeWhile
  rw [← hsplit, List.head?_append, hc]
  rfl

theorem trimMatches_last : ∀ c ∈ (trimMatches p text).toList.getLast?, p c = false := by
  intro c hc
  rw [trimMatches, toList_ofList] at hc
  have hne : (text.toList.dropWhile p).rdropWhile p ≠ [] := by
    intro hnil
    rw [hnil] at hc
    cases hc
  have hlast := rdropWhile_last_not p (text.toList.dropWhile p) hne
  rw [List.getLast?_eq_some_getLast hne] at hc
  cases hc
  simpa using hlast

theorem trim_trim : trim (trim text) = trim text :=
  trimMatches_eq_self trimMatches_head trimMatches_last

end

variable {c : Char}

theorem parseU16_eq {rest : List Char} (hplus : c ≠ '+') :
    parseU16 (ofList (c :: rest)) =
      if (c :: rest).all Char.isDigit ∧ Nat.ofDigitChars 10 (c :: rest) 0 < 65536 then
        some (UInt16.ofNat (Nat.ofDigitChars 10 (c :: rest) 0))
      else none := by
  unfold parseU16 parseBelow
  rw [toList_ofList]
  dsimp only
  split
  next heq => exact absurd (List.cons.inj heq).1 hplus
  next =>
    simp only [ne_eq, reduceCtorEq, not_false_eq_true, true_and]
    split_ifs <;> rfl

theorem plus_ne_of_isDigit (h : c.isDigit = true) : c ≠ '+' := by
  rintro rfl
  contradiction

theorem parseU16_of_not_digit {text : String} (hc : c.isDigit = false) (hplus : c ≠ '+')
    (hmem : c ∈ text.toList) : parseU16 text = none := by
  have hdigits : ∀ chars : List Char, c ∈ chars → ¬ chars.all Char.isDigit = true := by
    intro chars hin hall
    rw [all_eq_true.mp hall c hin] at hc
    cases hc
  unfold parseU16 parseBelow
  dsimp only
  rw [if_neg]
  · rfl
  · rintro ⟨_, hall, _⟩
    split at hall
    next digits heq =>
      rw [heq] at hmem
      exact hdigits digits ((mem_cons.mp hmem).resolve_left hplus) hall
    next => exact hdigits _ hmem hall

def portDigits (port : UInt16) : List Char := (toString port.toNat).toList

theorem isDigit_of_mem_portDigits {port : UInt16} (h : c ∈ portDigits port) : c.isDigit = true := by
  have hdigits : portDigits port = Nat.toDigits 10 port.toNat := by
    simp [portDigits]
  rw [hdigits] at h
  exact Nat.isDigit_of_mem_toDigits (by decide) (by decide) h

theorem not_mem_portDigits {port : UInt16} (h : c.isDigit = false) : c ∉ portDigits port := by
  intro hmem
  rw [isDigit_of_mem_portDigits hmem] at h
  cases h

theorem parseU16_portDigits (port : UInt16) : parseU16 (ofList (portDigits port)) = some port := by
  have hdigits : portDigits port = Nat.toDigits 10 port.toNat := by
    simp [portDigits]
  have hval : Nat.ofDigitChars 10 (portDigits port) 0 = port.toNat := by
    rw [hdigits, Nat.ofDigitChars_toDigits (by decide) (by decide)]
  have hne : portDigits port ≠ [] := by
    rw [hdigits]
    exact Nat.toDigits_ne_nil
  have hall : ∀ c ∈ portDigits port, c.isDigit = true := fun c hc => isDigit_of_mem_portDigits hc
  obtain ⟨c, rest, hport⟩ := exists_cons_of_ne_nil hne
  rw [hport] at hval hall ⊢
  rw [parseU16_eq (plus_ne_of_isDigit (hall c mem_cons_self)), hval,
    if_pos ⟨all_eq_true.mpr hall, port.toNat_lt⟩, UInt16.ofNat_toNat]

end KeliNative.Text
