import KeliNative.Lib.Base64
import KeliNative.Lib.TextLemmas
import KeliNative.Protocol.Subscription

/-!
# Legacy Shadowsocks links (`shadowsocks_share_link_to_profile`)

To a URL parser the base64 text of such a link is a host.
-/

namespace KeliNative.Protocol
open Base64 Text

def legacyBody (method password server : String) (port : UInt16) : String :=
  encode ⟨false, true⟩ (utf8 (method ++ ":" ++ password ++ "@" ++ server ++ ":" ++ toString port.toNat))

def legacyLink (body name : String) : String := "ss://" ++ body ++ "#" ++ name

/-- The host of an authority without user and port, under a scheme that is not special: what
stands before the first slash. An empty host is none. -/
def opaqueHost (body : String) : Option String :=
  let host := body.toList.takeWhile (· != '/')
  if host.isEmpty then none else some (String.ofList host)

/-- How the URL standard reads `ss://` and a body without the signs of a user, a port, a query
or a fragment. -/
structure OpaqueUrl (body : String) (url : Url) : Prop where
  scheme : url.scheme = "ss"
  username : url.username = ""
  hostStr : url.hostStr = opaqueHost body

theorem utf8_lt {text : String} {byte : UInt8} (h : byte ∈ utf8 text) : byte.toNat < 248 := by
  rw [utf8_eq] at h
  obtain ⟨c, -, hbyte⟩ := List.mem_flatMap.mp h
  unfold String.utf8EncodeChar at hbyte
  dsimp only at hbyte
  split_ifs at hbyte
  all_goals
    simp only [List.mem_cons, List.not_mem_nil, or_false] at hbyte
    rcases hbyte with rfl | rfl | rfl | rfl
    all_goals
      rw [UInt8.toNat_ofNat']
      omega

/-- No text begins with a byte whose first six bits are those of the slash. -/
theorem opaqueHost_encode {text : String} (htext : text.toList ≠ []) :
    ∃ host, opaqueHost (encode ⟨false, true⟩ (utf8 text)) = some host := by
  cases hbytes : utf8 text with
  | nil =>
    rw [utf8_eq] at hbytes
    exact absurd (flatMap_utf8EncodeChar_eq_nil hbytes) htext
  | cons byte rest =>
    have hlt : byte.toNat < 248 := utf8_lt (hbytes ▸ List.mem_cons_self)
    have hslash := digit_ne_slash (byte.toNat / 4) (by omega)
    obtain ⟨chars, hcs⟩ := encode_cons ⟨false, true⟩ byte rest
    unfold opaqueHost
    rw [hcs]
    simp [hslash]

/-- The branch for the body of such a link is never reached: the link has a host and no user. -/
theorem legacy_link_refused {readers : Readers} (method password server name : String)
    (port : UInt16) (index : ℕ) :
    let body := legacyBody method password server port
    (∀ url, readers.url (legacyLink body name) = .ok url → OpaqueUrl body url) →
    readers.shareLinkToProfile (legacyLink body name) index =
      .error (match readers.url (legacyLink body name) with
        | .error error => skip (numbered "link" index) error
        | .ok url => skip ((nonEmpty url.fragment).getD (numbered "proxy" index))
            "missing shadowsocks method/password") := by
  intro body hopaque
  have hvmess : readers.vmessJsonShareLinkToProfile (legacyLink body name) index = .ok none := by
    have hnone : stripped "vmess://" (legacyLink body name) = none := by
      rw [stripped_eq_none_iff]
      rintro ⟨rest, hrest⟩
      simp [legacyLink] at hrest
    simp only [Readers.vmessJsonShareLinkToProfile, hnone]
  unfold Readers.shareLinkToProfile
  rw [hvmess]
  cases hurl : readers.url (legacyLink body name) with
  | error error => rfl
  | ok url =>
    obtain ⟨hscheme, husername, hhost⟩ := hopaque url hurl
    obtain ⟨host, hsome⟩ : ∃ host, opaqueHost body = some host := by
      apply opaqueHost_encode
      simp only [String.toList_append, ne_eq, List.append_eq_nil_iff]
      exact fun hempty => absurd hempty.1.2 (by decide)
    rw [hsome] at hhost
    simp only [Except.bind, bind, hscheme, if_true, Readers.shadowsocksShareLinkToProfile,
      Readers.shadowsocksShareParts, hhost, Readers.shadowsocksUserinfo, husername]
    rfl

/-- What the libraries make of one legacy link. -/
def legacyReaders : Readers where
  yaml _ := .error ""
  json _ := .error ""
  url _ := .ok ⟨"ss", "", none, some "YWVzLTI1Ni1nY206cGFzc0Bob3N0OjgzODg=", none, [], some "node"⟩
  base64 _ _ := .ok (utf8 "aes-256-gcm:pass@host:8388")
  utf8Error _ := ""

theorem legacy_link_refused_aes :
    legacyReaders.shareLinkToProfile
        (legacyLink (legacyBody "aes-256-gcm" "pass" "host" 8388) "node") 0 =
      .error (skip "node" "missing shadowsocks method/password") := by
  refine legacy_link_refused "aes-256-gcm" "pass" "host" "node" 8388 0 fun url hurl => ?_
  cases hurl
  exact ⟨rfl, rfl, by decide +kernel⟩

/-- The body has the method, the password, the server and the port, and the link has no profile. -/
theorem legacy_link_lost :
    let link := "ss://YWVzLTI1Ni1nY206cGFzc0Bob3N0OjgzODg=#node"
    link = legacyLink (legacyBody "aes-256-gcm" "pass" "host" 8388) "node" ∧
      legacyReaders.decodeLegacyShadowsocksShareBody link =
        some ("aes-256-gcm", "pass", "host", 8388) ∧
      (legacyReaders.shareLinkToProfile link 0).toOption = none := by
  decide +kernel

end KeliNative.Protocol
