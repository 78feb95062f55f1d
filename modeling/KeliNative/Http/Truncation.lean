import KeliNative.Http.FetchSafety
import KeliNative.Http.PanelResponse

/-!
# Bodies shorter than their declared length

Neither parser compares the declared length with what arrived.
-/

namespace KeliNative.Http
open Panicking Route List

def saysChunked (line : String) : Bool :=
  match Text.splitOnce ':' line with
  | none => false
  | some (key, value) =>
    decide (asciiLowercase (Text.trim key) = "transfer-encoding".toList) &&
      decide ("chunked".toList <:+: asciiLowercase (Text.trim value))

/-- A response without chunked coding whose body is shorter than the length it declares. -/
structure CutShort (text : ResponseText) (response : Bytes) (headers : String) (body : Bytes) :
    Prop where
  found : ∃ headerEnd, findMark [13, 10, 13, 10] response = some headerEnd ∧
    headers = text.lossy.read (response.take headerEnd) ∧ body = response.drop (headerEnd + 4)
  plain : (Text.lines headers).any saysChunked = false
  declared : ∃ bound length,
    (headerValue headers "content-length" >>= Text.parseBelow bound) = some length ∧
      body.length < length

theorem toLower_of_isWhitespace {c : Char} (h : Text.isWhitespace c = true) : c.toLower = c := by
  have hrange : ¬ (65 ≤ c.toNat ∧ c.toNat ≤ 90) := by
    simp [Text.isWhitespace] at h
    omega
  unfold Char.toLower
  split_ifs with hupper
  · exact absurd hupper hrange
  · rfl

theorem trim_eq_of_lowercase {name : String}
    (h : asciiLowercase name = "transfer-encoding".toList) : Text.trim name = name := by
  apply Text.trim_of_no_whitespace
  intro c hc
  by_contra hwhite
  have hwhite : Text.isWhitespace c = true := by simpa using hwhite
  have hmem : c.toLower ∈ "transfer-encoding".toList := by
    rw [← h]
    exact mem_map_of_mem hc
  rw [toLower_of_isWhitespace hwhite] at hmem
  have hcs : "transfer-encoding".toList =
      ['t', 'r', 'a', 'n', 's', 'f', 'e', 'r', '-', 'e', 'n', 'c', 'o', 'd', 'i', 'n', 'g'] :=
    String.toList_ofList
  have hnone : ['t', 'r', 'a', 'n', 's', 'f', 'e', 'r', '-', 'e', 'n', 'c', 'o', 'd', 'i', 'n',
      'g'].all (fun c => !Text.isWhitespace c) = true := by
    decide
  rw [hcs] at hmem
  have hplain := all_eq_true.mp hnone c hmem
  rw [hwhite] at hplain
  cases hplain

theorem not_chunked_of_plain {lines : List String} (h : lines.any saysChunked = false)
    {line key value : String} (hline : line ∈ lines)
    (hsplit : Text.splitOnce ':' line = some (key, value))
    (hkey : asciiLowercase (Text.trim key) = "transfer-encoding".toList) :
    decide ("chunked".toList <:+: asciiLowercase (Text.trim value)) = false := by
  have hplain : saysChunked line = false := by
    rw [← Bool.not_eq_true]
    exact any_eq_false.mp h line hline
  rw [saysChunked, hsplit] at hplain
  dsimp only at hplain
  rw [decide_eq_true hkey, Bool.true_and] at hplain
  exact hplain

theorem transferEncoding_plain {lines : List String} (h : lines.any saysChunked = false) :
    ((transferEncoding lines).any fun encoding =>
      decide ("chunked".toList <:+: encoding)) = false := by
  cases hencoding : transferEncoding lines with
  | none => rfl
  | some encoding =>
    obtain ⟨⟨name, value⟩, hmem, hval⟩ := exists_of_findSome?_eq_some hencoding
    obtain ⟨line, hline, hsplit⟩ := mem_filterMap.mp hmem
    dsimp only at hval
    split_ifs at hval with hname
    have hkey : asciiLowercase (Text.trim name) = "transfer-encoding".toList := by
      rw [trim_eq_of_lowercase hname]
      exact hname
    rw [← Option.some.inj hval, Option.any_some]
    exact not_chunked_of_plain h hline hsplit hkey

theorem panelChunked_plain {headers : String}
    (h : (Text.lines headers).any saysChunked = false) : panelChunked headers = false := by
  unfold panelChunked
  cases hfound : headerValue headers "transfer-encoding" with
  | none => rfl
  | some value =>
    obtain ⟨line, hline, hval⟩ := exists_of_findSome?_eq_some hfound
    cases hsplit : Text.splitOnce ':' line with
    | none => simp [hsplit] at hval
    | some pair =>
      obtain ⟨key, text⟩ := pair
      have hname : asciiLowercase "transfer-encoding" = "transfer-encoding".toList := by decide
      simp only [hsplit, Option.bind_eq_bind, Option.bind_some, hname] at hval
      split_ifs at hval with hkey
      rw [← Option.some.inj hval, Option.any_some]
      exact not_chunked_of_plain h hline hsplit hkey

theorem contentLength_of_parseBelow {headers : String} {bound length : ℕ}
    (h : (headerValue headers "content-length" >>= Text.parseBelow bound) = some length) :
    contentLength headers = some length ∨ contentLength headers = none := by
  unfold contentLength
  cases hval : headerValue headers "content-length" with
  | none => exact .inr rfl
  | some value =>
    rw [hval] at h
    simp only [Option.bind_eq_bind, Option.bind_some, Text.parseBelow] at h ⊢
    split_ifs at h with hbound
    cases h
    split_ifs
    · exact .inl rfl
    · exact .inr rfl

section

variable {text : ResponseText} {response body : Bytes} {headers : String}

theorem CutShort.parseSubscriptionFetchResponse_eq (h : CutShort text response headers body)
    (checks : OverflowChecks) (source : SubscriptionFetchSource) (elapsed : Duration)
    (maxBytes : ℕ) (hfits : response.length < 2 ^ 63) :
    parseSubscriptionFetchResponse checks text source response elapsed maxBytes =
      .returned (match parseHttpStatusCode ((Text.lines headers).headD "") with
        | none => .error ⟨.invalidResponse,
            "subscription fetch response has an invalid HTTP status line", some source⟩
        | some statusCode =>
          if 200 ≤ statusCode ∧ statusCode < 300 then
            subscriptionText text source statusCode elapsed body
          else .error ⟨.httpStatus,
            "subscription fetch returned HTTP status " ++ toString statusCode.toNat,
            some source⟩) := by
  obtain ⟨headerEnd, hfound, hheaders, hbody⟩ := h.found
  have hend : headerEnd + 4 ≤ response.length := (findMark_some hfound).1
  have htail : ((Text.lines headers).drop 1).any saysChunked = false := by
    apply any_eq_false.mpr
    intro line hline
    exact any_eq_false.mp h.plain line (mem_of_mem_drop hline)
  unfold parseSubscriptionFetchResponse subscriptionParts findHttpHeaderEnd
  rw [hfound]
  dsimp only
  rw [slice_eq (Nat.zero_le _) (by omega), pure_bind, drop_zero, ← hheaders]
  cases parseHttpStatusCode ((Text.lines headers).headD "") with
  | none => rfl
  | some statusCode =>
    dsimp only
    by_cases hstat : 200 ≤ statusCode ∧ statusCode < 300
    · rw [if_neg (not_not.mpr hstat), if_pos hstat, addUsize_eq (by omega), pure_bind,
        slice_from hend, pure_bind, transferEncoding_plain htail, ← hbody]
      rfl
    · rw [if_pos hstat, if_neg hstat]
      rfl

theorem CutShort.parseHttpResponse_eq (h : CutShort text response headers body) :
    parseHttpResponse text response =
      .returned (match panelStatus headers with
        | none => .error ⟨"http", "response status is invalid"⟩
        | some status => panelText text status body) := by
  obtain ⟨headerEnd, hfound, hheaders, hbody⟩ := h.found
  obtain ⟨bound, length, hdecl, hshort⟩ := h.declared
  have htake : body.take (min length body.length) = body := by
    rw [Nat.min_eq_right (Nat.le_of_lt hshort), take_length]
  unfold parseHttpResponse
  rw [hfound]
  dsimp only
  rw [← hheaders, ← hbody]
  cases panelStatus headers with
  | none => rfl
  | some status =>
    dsimp only
    rw [panelChunked_plain h.plain]
    rcases contentLength_of_parseBelow hdecl with hlen | hlen
    · rw [hlen]
      dsimp only
      rw [htake]
      rfl
    · rw [hlen]
      rfl

end

/-- A body cut short is refused exactly if the status line is bad or the part is not UTF-8. -/
theorem cut_short_refused_iff (checks : OverflowChecks) (text : ResponseText)
    (source : SubscriptionFetchSource) (elapsed : Duration) (maxBytes : ℕ) (response body : Bytes)
    (headers : String) (h : CutShort text response headers body)
    (hfits : response.length < 2 ^ 63) :
    ((∃ error, parseSubscriptionFetchResponse checks text source response elapsed maxBytes =
        .returned (.error error)) ↔
      (∀ statusCode, parseHttpStatusCode ((Text.lines headers).headD "") = some statusCode →
        ¬ (200 ≤ statusCode ∧ statusCode < 300)) ∨ Text.fromUtf8 body = none) ∧
    ((∃ error, parseHttpResponse text response = .returned (.error error)) ↔
      panelStatus headers = none ∨ Text.fromUtf8 body = none) := by
  rw [h.parseSubscriptionFetchResponse_eq checks source elapsed maxBytes hfits,
    h.parseHttpResponse_eq]
  unfold subscriptionText panelText
  constructor
  · cases parseHttpStatusCode ((Text.lines headers).headD "") with
    | none => simp
    | some statusCode =>
      dsimp only
      by_cases hstat : 200 ≤ statusCode ∧ statusCode < 300
      · rw [if_pos hstat]
        cases Text.fromUtf8 body <;> simp [hstat]
      · rw [if_neg hstat]
        refine iff_of_true ⟨_, rfl⟩ (.inl ?_)
        rintro statusCode' ⟨⟩
        exact hstat
  · cases panelStatus headers with
    | none => simp
    | some status => cases Text.fromUtf8 body <;> simp

def cutResponse (statusLine : String) : Bytes :=
  Text.utf8 (statusLine ++ "\r\nContent-Length: 5\r\n\r\nab")

theorem cut_short_refused_of_status :
    (∃ error, parseSubscriptionFetchResponse .on asciiText exampleSource
        (cutResponse "HTTP/1.1 OK") 5 100 = .returned (.error error)) ∧
      ∃ error, parseHttpResponse asciiText (cutResponse "HTTP/1.1 OK") =
        .returned (.error error) := by
  have hcut : CutShort asciiText (cutResponse "HTTP/1.1 OK")
      "HTTP/1.1 OK\r\nContent-Length: 5" [97, 98] :=
    ⟨⟨30, by decide +kernel⟩, by decide +kernel, ⟨10, 5, by decide +kernel⟩⟩
  obtain ⟨hsubscription, hpanel⟩ := cut_short_refused_iff .on asciiText exampleSource 5 100 _ _ _
    hcut (by decide +kernel)
  have hstat : parseHttpStatusCode
      ((Text.lines "HTTP/1.1 OK\r\nContent-Length: 5").headD "") = none := by decide +kernel
  refine ⟨hsubscription.mpr (.inl ?_), hpanel.mpr (.inl (by decide +kernel))⟩
  intro statusCode hcode
  rw [hstat] at hcode
  cases hcode

/-- Both parsers return two bytes as the body of five. -/
theorem cut_body_accepted :
    parseSubscriptionFetchResponse .on asciiText exampleSource (cutResponse "HTTP/1.1 200 OK") 5 100 =
        .returned (.ok ⟨exampleSource, 200, "ab", 2, 5⟩) ∧
      parseHttpResponse asciiText (cutResponse "HTTP/1.1 200 OK") =
        .returned (.ok ⟨200, "ab"⟩) := by
  decide +kernel

end KeliNative.Http
