import KeliNative.Lib.Base64
import KeliNative.Lib.TextLemmas
import KeliNative.Protocol.Subscription

/-!
# Base64 in subscriptions and links (`decode_base64_flexible`)

Three engines are tried. None of them is the one for the standard alphabet without padding.
-/

namespace KeliNative.Protocol
open Base64 Text

def Base64Engine.form : Base64Engine → Form
  | .standard => ⟨false, true⟩
  | .urlSafe => ⟨true, true⟩
  | .urlSafeNoPad => ⟨true, false⟩

/-- Every engine accepts exactly its own encodings. -/
def ExactBase64 (readers : Readers) : Prop :=
  ∀ engine text bytes, readers.base64 engine (utf8 text) = .ok bytes ↔
    text = encode engine.form bytes

/-- The encodings in the standard alphabet without padding that are not those of another form. -/
def Unaccepted (form : Form) (bytes : List UInt8) : Prop :=
  form = ⟨false, false⟩ ∧ bytes.length % 3 ≠ 0 ∧ ∃ v ∈ sextets bytes, 62 ≤ v

theorem exists_engine_iff (form : Form) (bytes : List UInt8) :
    (∃ engine : Base64Engine, encode form bytes = encode engine.form bytes) ↔
      ¬Unaccepted form bytes := by
  constructor
  · rintro ⟨engine, h⟩ ⟨rfl, hlen, v, hv, hle⟩
    obtain ⟨halphabet, hpad⟩ := (encode_eq_iff _ _ _).mp h
    cases engine with
    | standard | urlSafe => exact hlen (hpad.resolve_left (by decide))
    | urlSafeNoPad => exact absurd (halphabet.resolve_left (by decide) v hv) hle.not_gt
  · intro h
    obtain ⟨_ | _, _ | _⟩ := form
    · by_cases hlen : bytes.length % 3 = 0
      · exact ⟨.standard, (encode_eq_iff _ _ _).mpr ⟨.inl rfl, .inr hlen⟩⟩
      · refine ⟨.urlSafeNoPad, (encode_eq_iff _ _ _).mpr ⟨.inr fun v hv => ?_, .inl rfl⟩⟩
        exact Nat.lt_of_not_le fun hle => h ⟨rfl, hlen, v, hv, hle⟩
    · exact ⟨.standard, rfl⟩
    · exact ⟨.urlSafeNoPad, rfl⟩
    · exact ⟨.urlSafe, rfl⟩

variable {readers : Readers} {form : Form} {bytes : List UInt8}

theorem decodeBase64Flexible_ok {input : String}
    (h : readers.decodeBase64Flexible input = .ok bytes) :
    ∃ engine, readers.base64 engine (utf8 input) = .ok bytes := by
  unfold Readers.decodeBase64Flexible at h
  split at h
  next hrun => exact ⟨_, hrun.trans h⟩
  · split at h
    next hrun => exact ⟨_, hrun.trans h⟩
    · exact ⟨_, h⟩

theorem decodeBase64Flexible_isOk {input : String} {engine : Base64Engine}
    (h : readers.base64 engine (utf8 input) = .ok bytes) :
    ∃ decoded, readers.decodeBase64Flexible input = .ok decoded := by
  unfold Readers.decodeBase64Flexible
  split
  · exact ⟨_, rfl⟩
  · split
    · exact ⟨_, rfl⟩
    · cases engine <;> simp_all

theorem decodeBase64Flexible_encode (hexact : ExactBase64 readers) {decoded : List UInt8} :
    readers.decodeBase64Flexible (encode form bytes) = .ok decoded ↔
      decoded = bytes ∧ ¬Unaccepted form bytes := by
  rw [← exists_engine_iff]
  -- whichever engine accepts the text, it decodes to the same bytes
  have hsame {decoded} (h : readers.decodeBase64Flexible (encode form bytes) = .ok decoded) :
      decoded = bytes ∧ ∃ engine : Base64Engine, encode form bytes = encode engine.form bytes := by
    obtain ⟨engine, hrun⟩ := decodeBase64Flexible_ok h
    have henc := (hexact _ _ _).mp hrun
    obtain rfl := encode_injective henc
    exact ⟨rfl, engine, henc⟩
  refine ⟨hsame, ?_⟩
  rintro ⟨rfl, engine, henc⟩
  obtain ⟨decoded, h⟩ := decodeBase64Flexible_isOk ((hexact engine _ _).mpr henc)
  rw [h, (hsame h).1]

theorem decodeShareSubscriptionText_encode {text body : String} (htext : text ≠ "")
    (hbody : body.toList.filter (!isWhitespace ·) = (encode form (utf8 text)).toList) :
    readers.decodeShareSubscriptionText body = .ok text ↔
      readers.decodeBase64Flexible (encode form (utf8 text)) = .ok (utf8 text) := by
  have hscheme : contains "://" body = false := by
    refine decide_eq_false fun hpart => ?_
    have hcolon : ':' ∈ body.toList := hpart.subset (by decide)
    refine not_mem_encode form (utf8 text) (show ':' ∈ _ by decide) ?_
    rw [← hbody, List.mem_filter]
    exact ⟨hcolon, by decide⟩
  have hne : (encode form (utf8 text)).isEmpty = false := by
    have hnil : encode ⟨false, false⟩ [] = "" := rfl
    rw [String.isEmpty_eq_false_iff, ← hnil]
    intro hempty
    have hback := fromUtf8_utf8 text
    rw [encode_injective hempty] at hback
    exact htext (Option.some.inj (hback.symm.trans (by decide)))
  unfold Readers.decodeShareSubscriptionText
  simp only [hscheme, hbody, String.ofList_toList, hne, Bool.false_eq_true, if_false]
  cases readers.decodeBase64Flexible (encode form (utf8 text)) with
  | error => simp
  | ok bytes =>
    simp only [Except.ok.injEq, eq_comm (b := utf8 text), ← fromUtf8_eq_some_iff]
    cases fromUtf8 bytes <;> simp

theorem linkBody_encode (form : Form) (bytes : List UInt8) :
    linkBody (encode form bytes) = encode form bytes := by
  have hsplit : ∀ c ∈ [':', '@', '#', '?'],
      (split c (encode form bytes)).headD (encode form bytes) = encode form bytes := by
    intro c hc
    have hnot := not_mem_encode form bytes hc
    rw [split, List.splitOn, List.splitOnP_eq_singleton fun x hx => ?_]
    · simp
    · rw [beq_eq_false_iff_ne]
      rintro rfl
      exact hnot hx
  unfold linkBody
  simp only [hsplit '#' (by decide), hsplit '?' (by decide)]

/-- A text in one of the four forms is decoded, in a subscription with white space anywhere and in
a VMess link, unless it lacks its padding and has a sign of the standard alphabet alone. -/
theorem flexible_base64_iff {readers : Readers} (hexact : ExactBase64 readers) (form : Form)
    (bytes : List UInt8) :
    (readers.decodeBase64Flexible (encode form bytes) = .ok bytes ↔ ¬Unaccepted form bytes) ∧
    (∀ text body, text ≠ "" → utf8 text = bytes →
      body.toList.filter (!isWhitespace ·) = (encode form bytes).toList →
      (readers.decodeShareSubscriptionText body = .ok text ↔ ¬Unaccepted form bytes)) ∧
    ∀ index, ¬Unaccepted form bytes →
      readers.vmessJsonShareLinkToProfile ("vmess://" ++ encode form bytes) index =
        match readers.json bytes with
        | .error error => .error (skip (numbered "proxy" index) error)
        | .ok config => (vmessJsonProfile config index).map some := by
  have hdec : readers.decodeBase64Flexible (encode form bytes) = .ok bytes ↔
      ¬Unaccepted form bytes :=
    (decodeBase64Flexible_encode hexact).trans (and_iff_right rfl)
  refine ⟨hdec, ?_, fun index haccd => ?_⟩
  · rintro text body htext rfl hbody
    rw [decodeShareSubscriptionText_encode htext hbody, hdec]
  · have hlink : stripped "vmess://" ("vmess://" ++ encode form bytes) =
        some (encode form bytes) := stripped_eq_some_iff.mpr String.toList_append
    have hat : contains "@" (encode form bytes) = false :=
      decide_eq_false fun hpart => not_mem_encode form bytes (show '@' ∈ _ by decide)
        (hpart.subset (by decide))
    cases hjson : readers.json bytes <;>
      simp only [Readers.vmessJsonShareLinkToProfile, hlink, hat, linkBody_encode,
        hdec.mpr haccd, hjson, Bool.false_eq_true, if_false]

open Classical in
/-- Base64 engines as exact as they are taken to be; no other format is read. -/
noncomputable def exactReaders : Readers where
  yaml _ := .error ""
  json _ := .error ""
  url _ := .error ""
  base64 engine input :=
    if h : ∃ bytes, input = utf8 (encode engine.form bytes) then .ok h.choose
    else .error "Invalid padding"
  utf8Error _ := ""

theorem exactBase64_exactReaders : ExactBase64 exactReaders := by
  intro engine text bytes
  have hinj {text text' : String} (h : utf8 text = utf8 text') : text = text' :=
    Option.some.inj ((fromUtf8_utf8 text).symm.trans (h ▸ fromUtf8_utf8 text'))
  unfold exactReaders
  dsimp only
  split
  next h =>
    have hchosen := hinj h.choose_spec
    rw [Except.ok.injEq]
    constructor
    · rintro rfl
      exact hchosen
    · intro htext
      exact encode_injective (hchosen.symm.trans htext)
  next h => exact ⟨fun hok => (by cases hok), fun htext => absurd ⟨bytes, congrArg utf8 htext⟩ h⟩

/-- With its padding, and with a line break in it, the text is decoded. -/
theorem flexible_base64_padded :
    exactReaders.decodeBase64Flexible "YWE/YQ==" = .ok (utf8 "aa?a") ∧
      exactReaders.decodeShareSubscriptionText "YWE/\nYQ==" = .ok "aa?a" := by
  have henc : encode ⟨false, true⟩ (utf8 "aa?a") = "YWE/YQ==" := by decide +kernel
  have haccd : ¬Unaccepted ⟨false, true⟩ (utf8 "aa?a") := fun h => absurd h.1 (by decide)
  obtain ⟨hdec, hbody, -⟩ :=
    flexible_base64_iff exactBase64_exactReaders ⟨false, true⟩ (utf8 "aa?a")
  rw [henc] at hdec hbody
  exact ⟨hdec.mpr haccd,
    (hbody "aa?a" "YWE/\nYQ==" (by decide) rfl (by decide +kernel)).mpr haccd⟩

/-- Without the padding no engine accepts it. -/
theorem unpadded_standard_refused :
    encode ⟨false, false⟩ (utf8 "aa?a") = "YWE/YQ" ∧
      (∀ bytes, exactReaders.decodeBase64Flexible "YWE/YQ" ≠ .ok bytes) ∧
      exactReaders.decodeShareSubscriptionText "YWE/YQ" ≠ .ok "aa?a" := by
  have henc : encode ⟨false, false⟩ (utf8 "aa?a") = "YWE/YQ" := by decide +kernel
  have href : ∀ bytes, exactReaders.decodeBase64Flexible "YWE/YQ" ≠ .ok bytes := by
    intro bytes h
    rw [← henc] at h
    refine ((decodeBase64Flexible_encode exactBase64_exactReaders).mp h).2 ⟨rfl, ?_, 63, ?_⟩
    · decide +kernel
    · decide +kernel
  refine ⟨henc, href, fun h => href (utf8 "aa?a") ?_⟩
  rw [← henc]
  exact (decodeShareSubscriptionText_encode (by decide) (by decide +kernel)).mp h

end KeliNative.Protocol
