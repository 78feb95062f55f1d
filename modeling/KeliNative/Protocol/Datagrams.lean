import KeliNative.Protocol.Tuic

/-!
# Datagrams over Trojan, Shadowsocks and SOCKS5 (`direct.rs`, `socks5.rs`)

Each codec puts the address and the port before the payload.
-/

namespace KeliNative.Protocol
open BigEndian Cursor Outbound Text List UInt8

def encodeTrojanUdpPacket (ipText : IpText) (target : Endpoint) (payload : Bytes) :
    Except ProtocolEncodingError Bytes :=
  if 65535 < payload.length then .error .packetTooLong
  else do
    let address ← encodeTrojanTarget ipText target
    return address ++ (be16 (UInt16.ofNat payload.length) ++ ([0x0d, 0x0a] ++ payload))

abbrev StreamReader (α : Type) := Cursor UInt8 IoError α

/-- What `read_exact` reports at the end of a stream. -/
def notFilled : IoError := ⟨.unexpectedEof, "failed to fill whole buffer"⟩

def readTrojanHost (ipText : IpText) (atyp : UInt8) : StreamReader String :=
  if atyp = 0x01 then do
    let ip ← take notFilled 4
    return ipText.display (.v4 (Ipv4Addr.ofOctets ip))
  else if atyp = 0x03 then do
    let len ← next notFilled
    let host ← take notFilled len.toNat
    ofOption ⟨.invalidData, "Trojan UDP domain is invalid UTF-8"⟩ (fromUtf8 host)
  else if atyp = 0x04 then do
    let ip ← take notFilled 16
    return ipText.display (.v6 (Ipv6Addr.ofOctets ip))
  else throw ⟨.invalidData, "Trojan UDP address type is unsupported: " ++ toString atyp.toNat⟩

def readStreamU16 : StreamReader UInt16 := do
  let bytes ← take notFilled 2
  return ofBe16 (bytes.getD 0 0) (bytes.getD 1 0)

def readTrojanPacketTarget (ipText : IpText) : StreamReader Endpoint := do
  let atyp ← next notFilled
  let host ← readTrojanHost ipText atyp
  let port ← readStreamU16
  return ⟨host, port⟩

/-- The reads of a packet, before its source is resolved. -/
def readTrojanUdpPacket (ipText : IpText) : StreamReader (Endpoint × Bytes) := do
  let source ← readTrojanPacketTarget ipText
  let len ← readStreamU16
  let crlf ← take notFilled 2
  ensure (crlf = [0x0d, 0x0a]) ⟨.invalidData, "Trojan UDP packet is missing CRLF"⟩
  let payload ← take notFilled len.toNat
  return (source, payload)

/-- An address with all of its port; `utf8Error` is the text of a `Utf8Error`. -/
def decodeShadowsocksUdpAddress (ipText : IpText) (utf8Error : Bytes → String) :
    StreamReader Endpoint := do
  let atyp ← next ⟨.unexpectedEof, "missing shadowsocks UDP address type"⟩
  if atyp = 0x01 then
    let bytes ← take ⟨.unexpectedEof, "missing shadowsocks UDP IPv4 address"⟩ 6
    return ⟨ipText.display (.v4 (Ipv4Addr.ofOctets bytes)),
      ofBe16 (bytes.getD 4 0) (bytes.getD 5 0)⟩
  else if atyp = 0x03 then
    let len ← next ⟨.unexpectedEof, "missing shadowsocks UDP domain length"⟩
    let bytes ← take ⟨.unexpectedEof, "missing shadowsocks UDP domain address"⟩ (len.toNat + 2)
    let host ← ofOption ⟨.invalidData, utf8Error (bytes.take len.toNat)⟩
      (fromUtf8 (bytes.take len.toNat))
    return ⟨host, ofBe16 (bytes.getD len.toNat 0) (bytes.getD (len.toNat + 1) 0)⟩
  else if atyp = 0x04 then
    let bytes ← take ⟨.unexpectedEof, "missing shadowsocks UDP IPv6 address"⟩ 18
    return ⟨ipText.display (.v6 (Ipv6Addr.ofOctets bytes)),
      ofBe16 (bytes.getD 16 0) (bytes.getD 17 0)⟩
  else throw ⟨.invalidData, "unsupported shadowsocks UDP address type: " ++ toString atyp.toNat⟩

/-- A packet cipher with its key. It works in place: a buffer has room for the tag behind the
plain text, which decryption leaves there. -/
structure UdpCipher where
  saltLen : ℕ
  tagLen : ℕ
  encryptPacket : Bytes → Bytes → Bytes
  decryptPacket : Bytes → Bytes → Option Bytes
  encrypt_length : ∀ salt plain, (encryptPacket salt plain).length = plain.length + tagLen
  decrypt_encrypt : ∀ salt plain, ∃ tag, tag.length = tagLen ∧
    decryptPacket salt (encryptPacket salt plain) = some (plain ++ tag)

def shadowsocksEncryptUdpPacket (ipText : IpText) (cipher : UdpCipher) (salt : Bytes)
    (target : Endpoint) (payload : Bytes) : Except IoError Bytes := do
  let header ← (encodeShadowsocksTarget ipText target).mapError protocolEncodingToIo
  return salt ++ cipher.encryptPacket salt (header ++ payload)

def shadowsocksDecryptUdpPacket (ipText : IpText) (utf8Error : Bytes → String) (cipher : UdpCipher)
    (packet : Bytes) : Except IoError (Endpoint × Bytes) :=
  if packet.length < cipher.saltLen + cipher.tagLen then
    .error ⟨.unexpectedEof, "missing shadowsocks UDP salt or tag"⟩
  else match cipher.decryptPacket (packet.take cipher.saltLen) (packet.drop cipher.saltLen) with
    | none => .error ⟨.invalidData, "invalid shadowsocks UDP packet tag"⟩
    | some payload => decodeShadowsocksUdpAddress ipText utf8Error
        (payload.take (payload.length - cipher.tagLen))

section

variable {short : IoError → Prop} (hshort : ∀ error, short error) {ipText : IpText}
  {target : Endpoint}

include hshort

theorem reads_readStreamU16 (word : UInt16) : Reads short readStreamU16 (be16 word) word := by
  have hbytes : Reads short (take notFilled 2) (be16 word) (be16 word) :=
    reads_take (hshort _) rfl
  have hword := hbytes.map fun bytes => ofBe16 (bytes.getD 0 0) (bytes.getD 1 0)
  rwa [show ofBe16 ((be16 word).getD 0 0) ((be16 word).getD 1 0) = word from ofBe16_digits word]
    at hword

theorem reads_readTrojanPacketTarget {address : Bytes}
    (h : encodeTrojanTarget ipText target = .ok address) :
    Reads short (readTrojanPacketTarget ipText) address
      ⟨readBackHost ipText target.host, target.port⟩ := by
  have hport := fun host : String => (reads_readStreamU16 hshort target.port).map (Endpoint.mk host)
  unfold encodeTrojanTarget encodeTarget at h
  unfold readBackHost
  cases hparse : ipText.parse (bareHost target.host) with
  | some ip =>
    simp only [hparse] at h
    cases h
    cases ip with
    | v4 ip =>
      have hoctets : Reads short (take notFilled 4) ip.octets ip.octets := reads_take (hshort _) rfl
      have hhost : Reads short (readTrojanHost ipText 0x01) ip.octets (ipText.display (.v4 ip)) := by
        rw [readTrojanHost, if_pos rfl]
        exact hoctets.map _
      exact (reads_next (hshort _) 0x01).bind (hhost.bind (hport _))
    | v6 ip =>
      have hoctets : Reads short (take notFilled 16) ip.octets ip.octets :=
        reads_take (hshort _) ip.octets_length
      have hhost : Reads short (readTrojanHost ipText 0x04) ip.octets (ipText.display (.v6 ip)) := by
        rw [readTrojanHost, if_neg (by decide), if_neg (by decide), if_pos rfl]
        have hmapped := hoctets.map fun ip => ipText.display (.v6 (Ipv6Addr.ofOctets ip))
        rwa [Ipv6Addr.ofOctets_octets] at hmapped
      exact (reads_next (hshort _) 0x04).bind (hhost.bind (hport _))
  | none =>
    simp only [hparse] at h
    split_ifs at h with href
    · cases h
    cases h
    have hlen : (utf8 (bareHost target.host)).length =
        (ofNat (utf8 (bareHost target.host)).length).toNat := by
      rw [toNat_ofNat']
      omega
    have hbytes : Reads short
        (take notFilled (ofNat (utf8 (bareHost target.host)).length).toNat)
        (utf8 (bareHost target.host)) (utf8 (bareHost target.host)) :=
      reads_take (hshort _) hlen
    have hhost : Reads short (readTrojanHost ipText 0x03)
        (ofNat (utf8 (bareHost target.host)).length :: utf8 (bareHost target.host))
        (bareHost target.host) := by
      rw [readTrojanHost, if_neg (by decide), if_pos rfl]
      exact (reads_next (hshort _) _).bind (hbytes.bind_nil (reads_ofOption _ (fromUtf8_utf8 _)))
    exact (reads_next (hshort _) 0x03).bind (hhost.bind (hport _))

omit hshort in
theorem port_behind (front : Bytes) (port : UInt16) {length : ℕ} (h : front.length = length) :
    ofBe16 ((front ++ be16 port).getD length 0) ((front ++ be16 port).getD (length + 1) 0) =
      port := by
  subst h
  rw [getD_append_right _ _ _ _ le_rfl, getD_append_right _ _ _ _ (Nat.le_add_right _ 1),
    Nat.sub_self, Nat.add_sub_cancel_left]
  exact ofBe16_digits port

theorem reads_decodeShadowsocksUdpAddress (utf8Error : Bytes → String) {address : Bytes}
    (h : encodeShadowsocksTarget ipText target = .ok address) :
    Reads short (decodeShadowsocksUdpAddress ipText utf8Error) address
      ⟨readBackHost ipText target.host, target.port⟩ := by
  unfold encodeShadowsocksTarget encodeTarget at h
  unfold readBackHost
  cases hparse : ipText.parse (bareHost target.host) with
  | some ip =>
    simp only [hparse] at h
    cases h
    cases ip with
    | v4 ip =>
      have hbytes : Reads short (take ⟨.unexpectedEof, "missing shadowsocks UDP IPv4 address"⟩ 6)
          (ip.octets ++ be16 target.port) (ip.octets ++ be16 target.port) :=
        reads_take (hshort _) rfl
      have hport := port_behind ip.octets target.port rfl
      refine (reads_next (hshort _) 0x01).bind ?_
      rw [if_pos rfl]
      have hmapped := hbytes.map fun bytes => (⟨ipText.display (.v4 (Ipv4Addr.ofOctets bytes)),
        ofBe16 (bytes.getD 4 0) (bytes.getD 5 0)⟩ : Endpoint)
      rwa [show ofBe16 ((ip.octets ++ be16 target.port).getD 4 0)
        ((ip.octets ++ be16 target.port).getD 5 0) = target.port from hport] at hmapped
    | v6 ip =>
      have hbytes : Reads short (take ⟨.unexpectedEof, "missing shadowsocks UDP IPv6 address"⟩ 18)
          (ip.octets ++ be16 target.port) (ip.octets ++ be16 target.port) :=
        reads_take (hshort _) (by rw [length_append, ip.octets_length]; rfl)
      have hoctets : Ipv6Addr.ofOctets (ip.octets ++ be16 target.port) = ip := by
        obtain ⟨octets, hlen⟩ := ip
        simp only [Ipv6Addr.ofOctets, Ipv6Addr.mk.injEq]
        rw [append_assoc, take_append_of_le_length hlen.ge, ← hlen, take_length]
      refine (reads_next (hshort _) 0x04).bind ?_
      rw [if_neg (by decide), if_neg (by decide), if_pos rfl]
      have hmapped := hbytes.map fun bytes => (⟨ipText.display (.v6 (Ipv6Addr.ofOctets bytes)),
        ofBe16 (bytes.getD 16 0) (bytes.getD 17 0)⟩ : Endpoint)
      rwa [hoctets, port_behind ip.octets target.port ip.octets_length] at hmapped
  | none =>
    simp only [hparse] at h
    split_ifs at h with href
    · cases h
    cases h
    generalize hname : utf8 (bareHost target.host) = name at href
    have hlen : name.length = (ofNat name.length).toNat := by
      rw [toNat_ofNat']
      omega
    have hbytes : Reads short (take ⟨.unexpectedEof, "missing shadowsocks UDP domain address"⟩
        ((ofNat name.length).toNat + 2)) (name ++ be16 target.port)
        (name ++ be16 target.port) :=
      reads_take (hshort _) (by rw [length_append, ← hlen]; rfl)
    have hhost : fromUtf8 ((name ++ be16 target.port).take (ofNat name.length).toNat) =
        some (bareHost target.host) := by
      rw [← hlen, take_left, ← hname, fromUtf8_utf8]
    have hport := port_behind name target.port hlen
    refine (reads_next (hshort _) 0x03).bind ?_
    rw [if_neg (by decide), if_pos rfl]
    refine (reads_next (hshort _) (ofNat name.length)).bind (hbytes.bind_nil ?_)
    refine (reads_ofOption _ hhost).bind_nil ?_
    rw [hport]
    exact reads_pure _

end

/-- The address a datagram is read back with. -/
def readBackAddress : Socks5Address → Socks5Address
  | .domain host => .domain (trim host)
  | address => address

theorem reads_readSlice {slice : Bytes} {length : ℕ} (h : slice.length = length) :
    Reads (fun _ => True) (fun input => readSlice input length : Cursor UInt8 Socks5Error Bytes) slice
      slice :=
  reads_take trivial h

variable {address : Socks5Address}

section

variable {bytes : Bytes} (h : encodeSocks5UdpAddress address = .ok bytes)

include h

theorem reads_parseSocks5UdpAddress :
    ∃ atyp used, bytes = atyp :: used ∧
      Reads (fun _ => True)
        (parseSocks5UdpAddress atyp : Cursor UInt8 Socks5Error Socks5Address) used
        (readBackAddress address) := by
  cases address with
  | ipv4 ip =>
    cases h
    have hslice := reads_readSlice (show ip.octets.length = 4 from rfl)
    refine ⟨_, _, rfl, ⟨fun rest => ?_, fun front hfront hne => ?_⟩⟩
    · have hwhole := hslice.whole rest
      simp only [parseSocks5UdpAddress, if_true, hwhole, bind, Except.bind]
      rfl
    · obtain ⟨error, _, hcut⟩ := hslice.cut front hfront hne
      refine ⟨error, trivial, ?_⟩
      simp only [parseSocks5UdpAddress, if_true, hcut, bind, Except.bind]
  | ipv6 ip =>
    cases h
    have hslice := reads_readSlice ip.octets_length
    refine ⟨_, _, rfl, ⟨fun rest => ?_, fun front hfront hne => ?_⟩⟩
    · have hwhole := hslice.whole rest
      show (readSlice (ip.octets ++ rest) 16 >>= _) = _
      rw [hwhole]
      show (if h : ip.octets.length = 16 then _ else _) = _
      rw [dif_pos ip.octets_length]
      rfl
    · obtain ⟨error, _, hcut⟩ := hslice.cut front hfront hne
      refine ⟨error, trivial, ?_⟩
      show (readSlice front 16 >>= _) = _
      rw [hcut]
      rfl
  | domain host =>
    unfold encodeSocks5UdpAddress at h
    dsimp only at h
    generalize hname : utf8 (trim host) = name at h
    split_ifs at h with hempty hlong
    cases h
    have hlen : name.length = (ofNat name.length).toNat := by
      rw [toNat_ofNat']
      omega
    have hpos : ofNat name.length ≠ 0 := by
      intro hzero
      rw [hzero] at hlen
      exact hempty (eq_nil_of_length_eq_zero hlen)
    have hslice := reads_readSlice hlen
    have hfirst : ∀ rest, readSlice (ofNat name.length :: rest) 1 =
        .ok ([ofNat name.length], rest) := fun rest =>
      (readSlice_append rest rfl : readSlice ([ofNat name.length] ++ rest) 1 = _)
    refine ⟨_, _, rfl, ⟨fun rest => ?_, fun front hfront hne => ?_⟩⟩
    · have hwhole : readSlice (name ++ rest) (ofNat name.length).toNat = .ok (name, rest) :=
        hslice.whole rest
      unfold parseSocks5UdpAddress
      rw [if_neg (by decide), if_pos rfl, cons_append]
      simp only [hfirst, bind, Except.bind, hpos, if_false, pure, Except.pure, hwhole]
      rw [← hname, fromUtf8_utf8]
      rfl
    · rcases prefix_cons_iff.mp hfront with rfl | ⟨front', rfl, hfront'⟩
      · exact ⟨_, trivial, rfl⟩
      · have hne' : front' ≠ name := fun heq => hne (by rw [heq])
        obtain ⟨error, _, hcut⟩ := hslice.cut front' hfront' hne'
        refine ⟨error, trivial, ?_⟩
        unfold parseSocks5UdpAddress
        rw [if_neg (by decide), if_pos rfl]
        simp only [hfirst, bind, Except.bind, hpos, if_false, pure, Except.pure]
        rw [show readSlice front' (ofNat name.length).toNat = .error error from hcut]

/-- The part of a datagram before its payload. -/
theorem parse_cutSocks5Header (port : UInt16) {front : Bytes}
    (hfront : front <+: [0x00, 0x00, 0x00] ++ bytes ++ be16 port)
    (hne : front ≠ [0x00, 0x00, 0x00] ++ bytes ++ be16 port) :
    ∃ error, parseSocks5UdpDatagram front = .error error := by
  obtain ⟨atyp, used, rfl, hrds⟩ := reads_parseSocks5UdpAddress h
  have hport : Reads (fun _ => True) (fun input => readSlice input 2 :
      Cursor UInt8 Socks5Error Bytes) (be16 port) (be16 port) := reads_readSlice rfl
  match front, hfront, hne with
  | [], _, _ => exact ⟨_, rfl⟩
  | [_], _, _ => exact ⟨_, rfl⟩
  | [_, _], _, _ => exact ⟨_, rfl⟩
  | [_, _, _], _, _ => exact ⟨_, rfl⟩
  | a :: b :: c :: d :: front, hfront, hne =>
    obtain ⟨rest, hrest⟩ := hfront
    simp only [cons_append, nil_append, List.cons.injEq] at hrest
    obtain ⟨rfl, rfl, rfl, rfl, hrest⟩ := hrest
    have hshort : front <+: used ++ be16 port := ⟨rest, hrest⟩
    have hne' : front ≠ used ++ be16 port := fun heq => hne (by rw [heq]; rfl)
    have hboth : Reads (fun _ => True) ((parseSocks5UdpAddress d : Cursor UInt8 Socks5Error _) >>=
        fun _ input => readSlice input 2) (used ++ be16 port) (be16 port) := hrds.bind hport
    obtain ⟨error, _, hcut⟩ := hboth.cut front hshort hne'
    simp only [parseSocks5UdpDatagram, ne_eq, not_true_eq_false, or_self, if_false, bind,
      Except.bind, pure, Except.pure]
    simp only [bind, StateT.bind, Except.bind] at hcut
    cases haddr : parseSocks5UdpAddress d front with
    | error error => exact ⟨error, rfl⟩
    | ok res =>
      rw [haddr] at hcut
      dsimp only at hcut ⊢
      rw [hcut]
      exact ⟨error, rfl⟩

theorem parse_encodedSocks5Datagram (port : UInt16) (data : Bytes) :
    parseSocks5UdpDatagram ([0x00, 0x00, 0x00] ++ bytes ++ be16 port ++ data) =
      .ok ⟨readBackAddress address, port, data⟩ := by
  obtain ⟨atyp, used, rfl, hrds⟩ := reads_parseSocks5UdpAddress h
  have hwhole := hrds.whole (be16 port ++ data)
  rw [← append_assoc] at hwhole
  exact parseSocks5UdpDatagram_of_address hwhole

end

theorem reads_readTrojanUdpPacket {short : IoError → Prop} (hshort : ∀ error, short error)
    {ipText : IpText} {target : Endpoint} {data pkt : Bytes}
    (h : encodeTrojanUdpPacket ipText target data = .ok pkt) :
    Reads short (readTrojanUdpPacket ipText) pkt
      (⟨readBackHost ipText target.host, target.port⟩, data) := by
  unfold encodeTrojanUdpPacket at h
  split_ifs at h with hlong
  cases haddr : encodeTrojanTarget ipText target with
  | error error =>
    rw [haddr] at h
    cases h
  | ok address =>
    rw [haddr] at h
    cases h
    have hsize : data.length = (UInt16.ofNat data.length).toNat := by
      rw [UInt16.toNat_ofNat', Nat.mod_eq_of_lt (by omega)]
    have hcrlf : Reads short (take notFilled 2 : StreamReader Bytes) [0x0d, 0x0a] [0x0d, 0x0a] :=
      reads_take (hshort _) rfl
    have hbytes : Reads short (take notFilled (UInt16.ofNat data.length).toNat) data data :=
      reads_take (hshort _) hsize
    refine (reads_readTrojanPacketTarget hshort haddr).bind ?_
    refine (reads_readStreamU16 hshort _).bind (hcrlf.bind ?_)
    exact (reads_ensure rfl _).bind (hbytes.map _)

/-- What the encoders of the three formats write is read back, with the host as they normalise it,
and a cut address is refused. -/
theorem datagram_codecs_invert (ipText : IpText) (utf8Error : Bytes → String) :
    (∀ target address payload, encodeTrojanTarget ipText target = .ok address →
      payload.length ≤ 65535 → ∃ packet, encodeTrojanUdpPacket ipText target payload = .ok packet ∧
        ∀ rest, readTrojanUdpPacket ipText (packet ++ rest) =
          .ok ((⟨readBackHost ipText target.host, target.port⟩, payload), rest)) ∧
    (∀ target address front, encodeTrojanTarget ipText target = .ok address → front <+: address →
      front ≠ address → ∃ error, readTrojanPacketTarget ipText front = .error error) ∧
    (∀ cipher salt target address payload, salt.length = cipher.saltLen →
      encodeShadowsocksTarget ipText target = .ok address →
      ∃ packet, shadowsocksEncryptUdpPacket ipText cipher salt target payload = .ok packet ∧
        shadowsocksDecryptUdpPacket ipText utf8Error cipher packet =
          .ok (⟨readBackHost ipText target.host, target.port⟩, payload)) ∧
    (∀ target address front, encodeShadowsocksTarget ipText target = .ok address →
      front <+: address → front ≠ address →
      ∃ error, decodeShadowsocksUdpAddress ipText utf8Error front = .error error) ∧
    ∀ address bytes port, encodeSocks5UdpAddress address = .ok bytes →
      (∀ payload, ∃ packet, encodeSocks5UdpDatagram address port payload = .ok packet ∧
        parseSocks5UdpDatagram packet = .ok ⟨readBackAddress address, port, payload⟩) ∧
      ∀ front, front <+: [0x00, 0x00, 0x00] ++ bytes ++ be16 port →
        front ≠ [0x00, 0x00, 0x00] ++ bytes ++ be16 port →
        ∃ error, parseSocks5UdpDatagram front = .error error := by
  have hany : ∀ error : IoError, (fun _ => True) error := fun _ => trivial
  refine ⟨fun target address payload haddr hsize => ?_,
    fun target address front haddr hfront hne => ?_,
    fun cipher salt target address payload hsalt haddr => ?_,
    fun target address front haddr hfront hne => ?_,
    fun address bytes port hbytes => ⟨fun payload => ?_, fun front hfront hne => ?_⟩⟩
  · have hencoded : ∃ packet, encodeTrojanUdpPacket ipText target payload = .ok packet := by
      rw [encodeTrojanUdpPacket, if_neg (by omega), haddr]
      exact ⟨_, rfl⟩
    obtain ⟨packet, hpkt⟩ := hencoded
    exact ⟨packet, hpkt, (reads_readTrojanUdpPacket hany hpkt).whole⟩
  · obtain ⟨error, _, herr⟩ := (reads_readTrojanPacketTarget hany haddr).cut front hfront hne
    exact ⟨error, herr⟩
  · have hencrypted : shadowsocksEncryptUdpPacket ipText cipher salt target payload =
        .ok (salt ++ cipher.encryptPacket salt (address ++ payload)) := by
      rw [shadowsocksEncryptUdpPacket, haddr]
      rfl
    obtain ⟨tag, htag, hdecrypted⟩ := cipher.decrypt_encrypt salt (address ++ payload)
    have hroom : ¬ (salt ++ cipher.encryptPacket salt (address ++ payload)).length <
        cipher.saltLen + cipher.tagLen := by
      rw [List.length_append, cipher.encrypt_length]
      omega
    have hplain : (address ++ payload ++ tag).take ((address ++ payload ++ tag).length -
        cipher.tagLen) = address ++ payload := by
      have hlen : (address ++ payload ++ tag).length - cipher.tagLen =
          (address ++ payload).length := by
        simp only [List.length_append]
        omega
      rw [hlen, List.take_left]
    refine ⟨_, hencrypted, ?_⟩
    rw [shadowsocksDecryptUdpPacket, if_neg hroom, ← hsalt, List.take_left, List.drop_left,
      hdecrypted]
    dsimp only
    rw [hplain]
    exact (reads_decodeShadowsocksUdpAddress hany utf8Error haddr).whole payload
  · obtain ⟨error, _, herr⟩ :=
      (reads_decodeShadowsocksUdpAddress hany utf8Error haddr).cut front hfront hne
    exact ⟨error, herr⟩
  · refine ⟨_, ?_, parse_encodedSocks5Datagram hbytes port payload⟩
    rw [encodeSocks5UdpDatagram, hbytes]
    rfl
  · exact parse_cutSocks5Header hbytes port hfront hne

/-- A toy cipher: the key is the salt, and the tag is the salt again. -/
def saltCipher : UdpCipher where
  saltLen := 1
  tagLen := 1
  encryptPacket salt plain := plain.map (· ^^^ salt.headD 0) ++ [salt.headD 0]
  decryptPacket salt bytes :=
    if bytes.getLast? = some (salt.headD 0) then some (bytes.map (· ^^^ salt.headD 0)) else none
  encrypt_length salt plain := by rw [length_append, length_map, length_singleton]
  decrypt_encrypt salt plain := by
    refine ⟨[0], rfl, ?_⟩
    rw [if_pos List.getLast?_concat, map_append, map_map]
    simp [Function.comp_def]

theorem datagram_codecs_invert_domain :
    (∃ packet, encodeTrojanUdpPacket decimalIpText ⟨" [ab] ", 53⟩ [1, 2] = .ok packet ∧
      readTrojanUdpPacket decimalIpText (packet ++ [9]) = .ok ((⟨"ab", 53⟩, [1, 2]), [9])) ∧
    (∃ packet, shadowsocksEncryptUdpPacket decimalIpText saltCipher [7] ⟨" [ab] ", 53⟩ [1, 2] =
        .ok packet ∧
      shadowsocksDecryptUdpPacket decimalIpText (fun _ => "") saltCipher packet =
        .ok (⟨"ab", 53⟩, [1, 2])) ∧
    ∃ packet, encodeSocks5UdpDatagram (.domain " ab ") 53 [1, 2] = .ok packet ∧
      parseSocks5UdpDatagram packet = .ok ⟨.domain "ab", 53, [1, 2]⟩ := by
  have hhost : readBackHost decimalIpText " [ab] " = "ab" := by decide +kernel
  have htrim : readBackAddress (.domain " ab ") = .domain "ab" := by decide +kernel
  obtain ⟨htrojan, -, hshadowsocks, -, hsocks5⟩ :=
    datagram_codecs_invert decimalIpText fun _ => ""
  obtain ⟨packet, hpkt, hread⟩ := htrojan ⟨" [ab] ", 53⟩ [3, 2, 97, 98, 0, 53] [1, 2]
    (by decide +kernel) (by decide)
  have hsealed := hshadowsocks saltCipher [7] ⟨" [ab] ", 53⟩ [3, 2, 97, 98, 0, 53] [1, 2] rfl
    (by decide +kernel)
  have hparsed := (hsocks5 (.domain " ab ") [3, 2, 97, 98] 53 (by decide +kernel)).1 [1, 2]
  rw [hhost] at hread hsealed
  rw [htrim] at hparsed
  exact ⟨⟨packet, hpkt, hread [9]⟩, hsealed, hparsed⟩

end KeliNative.Protocol
