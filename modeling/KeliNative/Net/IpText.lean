import KeliNative.Net.Route
import Mathlib

/-!
# Address texts

Any `parse` and `to_string` with the three facts the source relies on.
-/

namespace KeliNative
open List

theorem Ipv6Addr.octets_ne_nil (ip : Ipv6Addr) : ip.octets ≠ [] := by
  intro hnil
  have hlen := ip.octets_length
  rw [hnil] at hlen
  cases hlen

def toAsciiLowercase (text : String) : String := String.ofList (Route.asciiLowercase text)

theorem asciiLowercase_toAsciiLowercase (text : String) :
    Route.asciiLowercase (toAsciiLowercase text) = Route.asciiLowercase text := by
  simp only [toAsciiLowercase, Route.asciiLowercase, String.toList_ofList, map_map]
  exact map_congr_left fun c _ => Char.toLower_toLower_eq_toLower c

def EndsInDot (text : String) : Prop := text.toList.getLast? = some '.'

instance (text : String) : Decidable (EndsInDot text) := inferInstanceAs (Decidable (_ = _))

structure IpText where
  parse : String → Option IpAddr
  display : IpAddr → String
  parse_display (ip : IpAddr) : parse (display ip) = some ip
  parse_lowercase (text : String) : parse (toAsciiLowercase text) = parse text
  parse_endsInDot (text : String) : EndsInDot text → parse text = none

def SocketAddr.display (ipText : IpText) (address : SocketAddr) : String :=
  match address.ip with
  | .v4 _ => ipText.display address.ip ++ ":" ++ toString address.port
  | .v6 _ => "[" ++ ipText.display address.ip ++ "]:" ++ toString address.port

namespace Route

def OutboundTarget.routeTarget (ipText : IpText) (target : OutboundTarget) : RouteTarget :=
  match ipText.parse target.host with
  | some ip => .ip ip
  | none => .domain target.host

def OutboundTarget.routeDestination (ipText : IpText) (target : OutboundTarget) :
    RouteDestination := ⟨target.routeTarget ipText, target.port⟩

end Route

/-! ### A text form

Decimal octets, with dots between them in version 4 and colons in version 6. -/

namespace DecimalText

def octetText (octet : UInt8) : List Char := Nat.toDigits 10 octet.toNat

def octetOf (text : List Char) : UInt8 := UInt8.ofNat (Nat.ofDigitChars 10 text 0)

theorem octetOf_octetText (octet : UInt8) : octetOf (octetText octet) = octet := by
  rw [octetOf, octetText, Nat.ofDigitChars_toDigits (by decide) (by decide), UInt8.ofNat_toNat]

theorem isDigit_of_mem_octetText {octet : UInt8} {c : Char} (h : c ∈ octetText octet) :
    c.isDigit = true := Nat.isDigit_of_mem_toDigits (by decide) (by decide) h

theorem not_mem_octetText {separator : Char} (h : separator.isDigit = false) (octet : UInt8) :
    separator ∉ octetText octet := by
  intro hmem
  rw [isDigit_of_mem_octetText hmem] at h
  cases h

def join (separator : Char) (octets : Bytes) : List Char :=
  [separator].intercalate (octets.map octetText)

def split (separator : Char) (text : List Char) : Bytes := (text.splitOn separator).map octetOf

theorem split_join {separator : Char} (h : separator.isDigit = false) {octets : Bytes}
    (hne : octets ≠ []) : split separator (join separator octets) = octets := by
  have hgroups : (join separator octets).splitOn separator = octets.map octetText := by
    apply splitOn_intercalate
    · simp only [mem_map, forall_exists_index, and_imp, forall_apply_eq_imp_iff₂]
      exact fun octet _ => not_mem_octetText h octet
    · exact mt map_eq_nil_iff.mp hne
  rw [split, hgroups, map_map]
  exact (map_congr_left fun octet _ => octetOf_octetText octet).trans (map_id octets)

theorem split_length_of_not_mem {separator : Char} {text : List Char} (h : separator ∉ text) :
    (split separator text).length = 1 := by
  have hgroups : ([separator].intercalate [text]).splitOn separator = [text] :=
    splitOn_intercalate separator (by simpa using h) (cons_ne_nil _ _)
  rw [intercalate_singleton] at hgroups
  rw [split, hgroups]
  rfl

theorem mem_join {separator c : Char} {octets : Bytes} (h : c ∈ join separator octets) :
    c = separator ∨ c.isDigit = true := by
  induction octets with
  | nil => cases h
  | cons octet rest ih =>
    cases rest with
    | nil =>
      rw [join, map_singleton, intercalate_singleton] at h
      exact .inr (isDigit_of_mem_octetText h)
    | cons next rest =>
      rw [join, map_cons, map_cons, intercalate_cons_cons] at h
      rcases mem_append.mp h with h | h
      · rcases mem_append.mp h with h | h
        · exact .inr (isDigit_of_mem_octetText h)
        · exact .inl (mem_singleton.mp h)
      · exact ih h

def displayChars : IpAddr → List Char
  | .v4 ip => join '.' ip.octets
  | .v6 ip => join ':' ip.octets

def candidate (text : List Char) : Option IpAddr :=
  match split '.' text with
  | [a, b, c, d] => some (.v4 ⟨a, b, c, d⟩)
  | _ => if h : (split ':' text).length = 16 then some (.v6 ⟨split ':' text, h⟩) else none

theorem candidate_displayChars (ip : IpAddr) : candidate (displayChars ip) = some ip := by
  cases ip with
  | v4 ip =>
    have hne : ip.octets ≠ [] := cons_ne_nil _ _
    have h : split '.' (displayChars (.v4 ip)) = [ip.a, ip.b, ip.c, ip.d] := split_join rfl hne
    rw [candidate, h]
  | v6 ip =>
    have hdots : (split '.' (displayChars (.v6 ip))).length = 1 := by
      apply split_length_of_not_mem
      intro hmem
      rcases mem_join hmem with h | h <;> exact absurd h (by decide)
    have h : split ':' (displayChars (.v6 ip)) = ip.octets := split_join rfl ip.octets_ne_nil
    rw [candidate]
    split
    next hfour =>
      rw [hfour] at hdots
      cases hdots
    next =>
      simp only [h, ip.octets_length, dite_true]

theorem join_getLast? (separator : Char) {octets : Bytes} (hne : octets ≠ []) :
    ∃ c, (join separator octets).getLast? = some c ∧ c.isDigit = true := by
  induction octets with
  | nil => exact absurd rfl hne
  | cons octet rest ih =>
    cases rest with
    | nil =>
      have htext : octetText octet ≠ [] := Nat.toDigits_ne_nil
      refine ⟨(octetText octet).getLast htext, ?_, isDigit_of_mem_octetText (getLast_mem _)⟩
      rw [join, map_singleton, intercalate_singleton]
      exact List.getLast?_eq_some_getLast htext
    | cons next rest =>
      obtain ⟨c, hlast, hdigit⟩ := ih (cons_ne_nil _ _)
      refine ⟨c, ?_, hdigit⟩
      rw [join, map_cons, map_cons, intercalate_cons_cons, List.getLast?_append]
      rw [join, map_cons] at hlast
      rw [hlast]
      rfl

theorem displayChars_getLast? (ip : IpAddr) : (displayChars ip).getLast? ≠ some '.' := by
  have hdigit : ∃ c, (displayChars ip).getLast? = some c ∧ c.isDigit = true := by
    cases ip with
    | v4 ip => exact join_getLast? '.' (cons_ne_nil _ _)
    | v6 ip => exact join_getLast? ':' ip.octets_ne_nil
  obtain ⟨c, hlast, hdigit⟩ := hdigit
  rw [hlast]
  rintro ⟨⟩
  cases hdigit

theorem toLower_of_isDigit {c : Char} (h : c.isDigit = true) : c.toLower = c := by
  apply Char.toLower_eq_of_not_isUpper
  simp only [Char.isDigit, Char.isUpper, UInt32.le_iff_toNat_le, Bool.and_eq_true,
    decide_eq_true_eq, ge_iff_le] at h ⊢
  have hnine : '9'.val.toNat = 57 := rfl
  have hupper : 'A'.val.toNat = 65 := rfl
  omega

theorem displayChars_lowercase (ip : IpAddr) :
    (displayChars ip).map Char.toLower = displayChars ip := by
  refine (map_congr_left fun c hc => ?_).trans (map_id _)
  have hchar : c = '.' ∨ c = ':' ∨ c.isDigit = true := by
    cases ip with
    | v4 ip => exact (mem_join hc).imp_right .inr
    | v6 ip => exact .inr (mem_join hc)
  rcases hchar with rfl | rfl | h
  · rfl
  · rfl
  · exact toLower_of_isDigit h

end DecimalText

def decimalIpText : IpText where
  parse text := (DecimalText.candidate (Route.asciiLowercase text)).filter fun ip =>
    DecimalText.displayChars ip == Route.asciiLowercase text
  display ip := String.ofList (DecimalText.displayChars ip)
  parse_display ip := by
    simp only [Route.asciiLowercase, String.toList_ofList, DecimalText.displayChars_lowercase,
      DecimalText.candidate_displayChars, Option.filter_some, BEq.rfl, ite_true]
  parse_lowercase text := by
    rw [asciiLowercase_toAsciiLowercase]
  parse_endsInDot text hdot := by
    rw [Option.filter_eq_none_iff]
    intro ip _ heq
    apply DecimalText.displayChars_getLast? ip
    rw [beq_iff_eq.mp heq, Route.asciiLowercase, List.getLast?_map,
      show text.toList.getLast? = _ from hdot]
    rfl

end KeliNative
