import KeliNative.Lib.TextLemmas
import KeliNative.Net.Outbound

/-!
# Target addresses (`keli-protocol/src/lib.rs`, `direct.rs`, `mieru.rs`)

How each outbound protocol writes the target of a request.
-/

namespace KeliNative.Protocol
open BigEndian Outbound Text List

inductive ProtocolEncodingError where
  | invalidUuid
  | invalidPassword
  | invalidTargetHost
  | flowTooLong
  | packetTooLong
  deriving DecidableEq

def ProtocolEncodingError.display : ProtocolEncodingError → String
  | .invalidUuid => "VLESS credential must be a UUID"
  | .invalidPassword => "Trojan password is empty"
  | .invalidTargetHost => "VLESS target host is invalid"
  | .flowTooLong => "VLESS flow is too long"
  | .packetTooLong => "UDP packet payload is too long"

def protocolEncodingToIo (error : ProtocolEncodingError) : IoError := ⟨.invalidInput, error.display⟩

/-- The address type bytes of a protocol. -/
structure AddressTypes where
  ipv4 : UInt8
  domain : UInt8
  ipv6 : UInt8
  deriving DecidableEq

def AddressTypes.address (types : AddressTypes) : IpAddr → Bytes
  | .v4 ip => types.ipv4 :: ip.octets
  | .v6 ip => types.ipv6 :: ip.octets

def AddressTypes.name (types : AddressTypes) (host : Bytes) : Bytes :=
  types.domain :: UInt8.ofNat host.length :: host

section

variable (ipText : IpText) (target : Endpoint)

/-- The body that the Trojan, Shadowsocks, TUIC and VLESS encoders have in common. -/
def encodeTarget (types : AddressTypes) : Except ProtocolEncodingError Bytes :=
  let host := bareHost target.host
  match ipText.parse host with
  | some ip => .ok (types.address ip)
  | none =>
    if utf8 host = [] ∨ 255 < (utf8 host).length then .error .invalidTargetHost
    else .ok (types.name (utf8 host))

def trojanTypes : AddressTypes := ⟨0x01, 0x03, 0x04⟩
def shadowsocksTypes : AddressTypes := ⟨0x01, 0x03, 0x04⟩
def tuicTypes : AddressTypes := ⟨0x01, 0x00, 0x02⟩
def vlessTypes : AddressTypes := ⟨0x01, 0x02, 0x03⟩
def vmessTypes : AddressTypes := ⟨0x01, 0x02, 0x03⟩
def socksTypes : AddressTypes := ⟨0x01, 0x03, 0x04⟩

def encodeTrojanTarget : Except ProtocolEncodingError Bytes := do
  return (← encodeTarget ipText target trojanTypes) ++ be16 target.port

def encodeShadowsocksTarget : Except ProtocolEncodingError Bytes := do
  return (← encodeTarget ipText target shadowsocksTypes) ++ be16 target.port

def encodeTuicTarget : Except ProtocolEncodingError Bytes := do
  return (← encodeTarget ipText target tuicTypes) ++ be16 target.port

def encodeVlessTarget : Except ProtocolEncodingError Bytes := do
  return be16 target.port ++ (← encodeTarget ipText target vlessTypes)

/-- The host is parsed as it stands, and normalised only where it is a name. -/
def writeVmessTargetHeader : Except IoError Bytes :=
  match ipText.parse target.host with
  | some ip => .ok (be16 target.port ++ vmessTypes.address ip)
  | none =>
    let host := utf8 (bareHost target.host)
    if host = [] ∨ 255 < host.length then .error ⟨.invalidInput, "vmess target host is invalid"⟩
    else .ok (be16 target.port ++ vmessTypes.name host)

/-- The host is normalised only to be parsed; a name is written as it stands. -/
def appendSocks5Target : Except IoError Bytes :=
  match ipText.parse (bareHost target.host) with
  | some ip => .ok (socksTypes.address ip ++ be16 target.port)
  | none =>
    let host := utf8 target.host
    if host = [] ∨ 255 < host.length then
      .error ⟨.invalidInput, "SOCKS5 target domain length is invalid"⟩
    else .ok (socksTypes.name host ++ be16 target.port)

/-- The request of a Mieru session; nothing is normalised and an empty name is not refused. -/
def socksConnectRequest : Except IoError Bytes :=
  match ipText.parse target.host with
  | some ip => .ok ([5, 1, 0] ++ socksTypes.address ip ++ be16 target.port)
  | none =>
    let host := utf8 target.host
    if 255 < host.length then .error ⟨.invalidInput, "Mieru target domain is too long"⟩
    else .ok ([5, 1, 0] ++ socksTypes.name host ++ be16 target.port)

end

/-- What an encoded target names. -/
inductive Destination where
  | ip (ip : IpAddr)
  | domain (host : Bytes)
  deriving DecidableEq

def AddressTypes.destination (types : AddressTypes) : Destination → Bytes
  | .ip ip => types.address ip
  | .domain host => types.name host

inductive TargetEncoder where
  | trojan
  | shadowsocks
  | vless
  | vmess
  | socks5
  | mieru
  deriving DecidableEq

namespace TargetEncoder

/-- The bytes of an encoder, or nothing where it rejects the host. -/
def encode (ipText : IpText) (target : Endpoint) : TargetEncoder → Option Bytes
  | .trojan => (encodeTrojanTarget ipText target).toOption
  | .shadowsocks => (encodeShadowsocksTarget ipText target).toOption
  | .vless => (encodeVlessTarget ipText target).toOption
  | .vmess => (writeVmessTargetHeader ipText target).toOption
  | .socks5 => (appendSocks5Target ipText target).toOption
  | .mieru => (socksConnectRequest ipText target).toOption

/-- The bytes that name a destination in the encoder's own layout. -/
def layout (port : UInt16) : TargetEncoder → Destination → Bytes
  | .trojan, destination => trojanTypes.destination destination ++ be16 port
  | .shadowsocks, destination => shadowsocksTypes.destination destination ++ be16 port
  | .vless, destination => be16 port ++ vlessTypes.destination destination
  | .vmess, destination => be16 port ++ vmessTypes.destination destination
  | .socks5, destination => socksTypes.destination destination ++ be16 port
  | .mieru, destination => [5, 1, 0] ++ socksTypes.destination destination ++ be16 port

/-- The destination an encoder writes, or nothing where it rejects the host. -/
def destination (ipText : IpText) (host : String) : TargetEncoder → Option Destination
  | .trojan | .shadowsocks | .vless =>
    match ipText.parse (bareHost host) with
    | some ip => some (.ip ip)
    | none => named (utf8 (bareHost host)) (utf8 (bareHost host) = [])
  | .vmess =>
    match ipText.parse host with
    | some ip => some (.ip ip)
    | none => named (utf8 (bareHost host)) (utf8 (bareHost host) = [])
  | .socks5 =>
    match ipText.parse (bareHost host) with
    | some ip => some (.ip ip)
    | none => named (utf8 host) (utf8 host = [])
  | .mieru =>
    match ipText.parse host with
    | some ip => some (.ip ip)
    | none => named (utf8 host) False
where
  named (host : Bytes) (refused : Prop) [Decidable refused] : Option Destination :=
    if refused ∨ 255 < host.length then none else some (.domain host)

theorem encode_eq (ipText : IpText) (target : Endpoint) (encoder : TargetEncoder) :
    encoder.encode ipText target =
      (encoder.destination ipText target.host).map (encoder.layout target.port) := by
  cases encoder with
  | trojan =>
    simp only [encode, destination, destination.named, encodeTrojanTarget, encodeTarget]
    cases ipText.parse (bareHost target.host) with
    | some ip => rfl
    | none => dsimp only; split_ifs <;> rfl
  | shadowsocks =>
    simp only [encode, destination, destination.named, encodeShadowsocksTarget, encodeTarget]
    cases ipText.parse (bareHost target.host) with
    | some ip => rfl
    | none => dsimp only; split_ifs <;> rfl
  | vless =>
    simp only [encode, destination, destination.named, encodeVlessTarget, encodeTarget]
    cases ipText.parse (bareHost target.host) with
    | some ip => rfl
    | none => dsimp only; split_ifs <;> rfl
  | vmess =>
    simp only [encode, destination, destination.named, writeVmessTargetHeader]
    cases ipText.parse target.host with
    | some ip => rfl
    | none => dsimp only; split_ifs <;> rfl
  | socks5 =>
    simp only [encode, destination, destination.named, appendSocks5Target]
    cases ipText.parse (bareHost target.host) with
    | some ip => rfl
    | none => dsimp only; split_ifs <;> rfl
  | mieru =>
    simp only [encode, destination, destination.named, socksConnectRequest, false_or]
    cases ipText.parse target.host with
    | some ip => rfl
    | none => dsimp only; split_ifs <;> rfl

end TargetEncoder

theorem utf8_inj {text text' : String} (h : utf8 text = utf8 text') : text = text' := by
  have hread := fromUtf8_utf8 text
  rw [h, fromUtf8_utf8] at hread
  exact (Option.some.inj hread).symm

theorem utf8_empty : utf8 "" = [] := by
  rw [utf8_eq]
  rfl

theorem utf8_eq_nil_iff {text : String} : utf8 text = [] ↔ text = "" :=
  ⟨fun h => utf8_inj (h.trans utf8_empty.symm), fun h => by rw [h, utf8_empty]⟩

theorem AddressTypes.destination_injective {types : AddressTypes} (h46 : types.ipv4 ≠ types.ipv6)
    (h4 : types.ipv4 ≠ types.domain) (h6 : types.ipv6 ≠ types.domain) :
    Function.Injective types.destination := by
  intro dest destination' h
  rcases dest with (⟨a, b, c, d⟩ | ⟨octets, hoctets⟩) | host <;>
    rcases destination' with (⟨a', b', c', d'⟩ | ⟨octets', hoctets'⟩) | host' <;>
    simp_all [AddressTypes.destination, AddressTypes.address, AddressTypes.name, Ipv4Addr.octets]

theorem TargetEncoder.layout_injective (port : UInt16) (encoder : TargetEncoder) :
    Function.Injective (encoder.layout port) := by
  have hinjective : ∀ types ∈ [trojanTypes, vlessTypes], Function.Injective types.destination := by
    intro types htypes
    apply AddressTypes.destination_injective <;>
      rcases mem_cons.mp htypes with rfl | htypes <;>
      first | decide | (rw [mem_singleton.mp htypes]; decide)
  intro dest destination' h
  cases encoder with
  | trojan => exact hinjective trojanTypes (by simp) (append_cancel_right h)
  | shadowsocks => exact hinjective trojanTypes (by simp) (append_cancel_right h)
  | vless => exact hinjective vlessTypes (by simp) (append_cancel_left h)
  | vmess => exact hinjective vlessTypes (by simp) (append_cancel_left h)
  | socks5 => exact hinjective trojanTypes (by simp) (append_cancel_right h)
  | mieru =>
    exact hinjective trojanTypes (by simp) (append_cancel_left (append_cancel_right h))

/-- The host means the same before and after normalisation. -/
def Uniform (ipText : IpText) (host : String) : Prop :=
  ipText.parse (bareHost host) = ipText.parse host ∧
  (ipText.parse host = none →
    (bareHost host = host ∧ host ≠ "") ∨
    (255 < (utf8 host).length ∧ (bareHost host = "" ∨ 255 < (utf8 (bareHost host)).length)))

theorem destination_agrees_iff (ipText : IpText) (host : String) :
    (∃ dest, dest ≠ some (.domain []) ∧
      ∀ encoder : TargetEncoder, encoder.destination ipText host = dest) ↔
    Uniform ipText host := by
  unfold Uniform
  constructor
  · rintro ⟨dest, hnamed, h⟩
    have htrojan := h .trojan
    have hmieru := h .mieru
    simp only [TargetEncoder.destination, TargetEncoder.destination.named] at htrojan
    simp only [TargetEncoder.destination, TargetEncoder.destination.named, false_or] at hmieru
    cases hhost : ipText.parse host with
    | some ip =>
      cases hbare : ipText.parse (bareHost host) with
      | some ip' =>
        simp only [hhost, hbare] at htrojan hmieru
        have hip := htrojan.trans hmieru.symm
        simp only [Option.some.injEq, Destination.ip.injEq] at hip
        exact ⟨by rw [hip], nofun⟩
      | none =>
        simp only [hhost, hbare] at htrojan hmieru
        split_ifs at htrojan <;> simp [← hmieru] at htrojan
    | none =>
      cases hbare : ipText.parse (bareHost host) with
      | some ip' =>
        simp only [hhost, hbare] at htrojan hmieru
        split_ifs at hmieru <;> simp [← htrojan] at hmieru
      | none =>
        refine ⟨rfl, fun _ => ?_⟩
        simp only [hhost, hbare] at htrojan hmieru
        rw [← hmieru] at hnamed htrojan
        by_cases hlong : 255 < (utf8 host).length
        · rw [if_pos hlong] at htrojan
          have href : utf8 (bareHost host) = [] ∨ 255 < (utf8 (bareHost host)).length := by
            by_contra hnot
            rw [if_neg hnot] at htrojan
            cases htrojan
          exact .inr ⟨hlong, href.imp_left utf8_eq_nil_iff.mp⟩
        · rw [if_neg hlong] at htrojan hnamed
          split_ifs at htrojan with href
          simp only [Option.some.injEq, Destination.domain.injEq] at htrojan
          refine .inl ⟨utf8_inj htrojan, fun hempty => hnamed ?_⟩
          rw [hempty, utf8_empty]
  · rintro ⟨hparse, hname⟩
    refine ⟨TargetEncoder.destination ipText host .mieru, ?_, fun encoder => ?_⟩ <;>
      simp only [TargetEncoder.destination, TargetEncoder.destination.named, false_or]
    · cases hhost : ipText.parse host with
      | some ip => simp
      | none =>
        rcases hname hhost with ⟨_, hne⟩ | ⟨hlong, _⟩
        · simp only
          split_ifs with hlong
          · simp
          · simp only [ne_eq, Option.some.injEq, Destination.domain.injEq]
            exact mt utf8_eq_nil_iff.mp hne
        · simp [hlong]
    · cases hhost : ipText.parse host with
      | some ip =>
        rw [hhost] at hparse
        cases encoder <;> simp only [hparse]
      | none =>
        rw [hhost] at hparse
        rcases hname hhost with ⟨heq, hne⟩ | ⟨hlong, href⟩
        · have hfull : utf8 host ≠ [] := mt utf8_eq_nil_iff.mp hne
          cases encoder <;> simp only [hhost, heq, hfull, false_or]
        · have href' : utf8 (bareHost host) = [] ∨ 255 < (utf8 (bareHost host)).length :=
            href.imp_left utf8_eq_nil_iff.mpr
          cases encoder <;>
            simp only [hparse, if_pos hlong, if_pos href', if_pos (Or.inr hlong : _ ∨ _)]

/-- The six encoders name one destination or none exactly for the hosts that normalisation leaves
the same. -/
theorem same_target_iff (ipText : IpText) (target : Endpoint) :
    (∃ destination, destination ≠ some (.domain []) ∧ ∀ encoder : TargetEncoder,
      encoder.encode ipText target = destination.map (encoder.layout target.port)) ↔
    Uniform ipText target.host := by
  rw [← destination_agrees_iff]
  constructor
  · rintro ⟨destination, hnamed, h⟩
    refine ⟨destination, hnamed, fun encoder => ?_⟩
    have hencoder := h encoder
    rw [TargetEncoder.encode_eq] at hencoder
    exact Option.map_injective (encoder.layout_injective target.port) hencoder
  · rintro ⟨destination, hnamed, h⟩
    exact ⟨destination, hnamed, fun encoder => by rw [TargetEncoder.encode_eq, h]⟩

/-- An address with a space before it is an address to Trojan and a name to Mieru. -/
theorem padded_address_differs :
    ¬ ∃ destination, destination ≠ some (.domain []) ∧ ∀ encoder : TargetEncoder,
      encoder.encode decimalIpText ⟨" 10.0.0.1", 443⟩ =
        destination.map (encoder.layout 443) := by
  rintro ⟨destination, _, h⟩
  have htrojan := h .trojan
  have hmieru := h .mieru
  rw [show TargetEncoder.encode decimalIpText ⟨" 10.0.0.1", 443⟩ .trojan =
    some [1, 10, 0, 0, 1, 1, 187] by decide +kernel] at htrojan
  rw [show TargetEncoder.encode decimalIpText ⟨" 10.0.0.1", 443⟩ .mieru =
    some [5, 1, 0, 3, 9, 32, 49, 48, 46, 48, 46, 48, 46, 49, 1, 187] by decide +kernel] at hmieru
  rcases destination with _ | ((⟨a, b, c, d⟩ | ⟨octets, hoctets⟩) | host)
  · cases htrojan
  · cases hmieru
  · cases htrojan
  · cases htrojan

end KeliNative.Protocol
