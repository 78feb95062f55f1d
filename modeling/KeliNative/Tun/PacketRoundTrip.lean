import KeliNative.Tun.Packet

/-!
# Built packets parse back

The parsers read what the builders wrote, with the flow reversed.
-/

namespace KeliNative.Tun
open KeliNative.BigEndian List

def addressesMatch : TunIpVersion → IpAddr → IpAddr → Bool
  | .ipv4, .v4 _, .v4 _ => true
  | .ipv6, .v6 _, .v6 _ => true
  | _, _, _ => false

/-- A flow whose answers can be built: TCP, both ports, and addresses of its IP
version. Every flow of a parsed TCP packet is one. -/
structure TunPacketFlow.Buildable (flow : TunPacketFlow) : Prop where
  tcp : flow.protocol = .tcp
  source : flow.sourcePort.isSome
  destination : flow.destinationPort.isSome
  addresses : addressesMatch flow.ipVersion flow.destinationIp flow.sourceIp = true

variable (flow : TunPacketFlow) (sport : UInt16) (seq : UInt32)
  (dport : UInt16) (flags : TunTcpFlags) (ack : UInt32) (ck : UInt16)
  (payload : Bytes)

theorem writeTcpSegment_length (seq ack : UInt32) (flags : TunTcpFlags)
    (win ck : UInt16) (payload : Bytes) :
    (writeTcpSegment sport dport seq ack flags win
      ck payload).length = 20 + payload.length := by
  simp only [writeTcpSegment, be16, be32, length_append, length_cons, length_nil]

theorem flag_bits_lt : flags.bits.toNat < 512 := by
  have h := congrArg UInt16.toNat flags.masked
  rw [UInt16.toNat_and, show (0x01ff : UInt16).toNat = 2 ^ 9 - 1 from rfl,
    Nat.and_two_pow_sub_one_eq_mod] at h
  omega

/- The two facts about the nine flag bits are finite: all 512 values are evaluated. -/
theorem flag_bytes_finite : ∀ n : Fin 512,
    (((((0x50 : UInt8) ||| ((UInt16.ofNat n.val >>> 8) &&& 0x01).toUInt8) &&& 0x01).toUInt16 <<< 8) |||
      (UInt16.ofNat n.val).toUInt8.toUInt16) &&& 0x01ff = UInt16.ofNat n.val := by
  decide +kernel

theorem data_offset_finite : ∀ n : Fin 512,
    (((0x50 : UInt8) ||| ((UInt16.ofNat n.val >>> 8) &&& 0x01).toUInt8) >>> 4).toNat = 5 := by
  decide +kernel

theorem flags_of_bytes :
    TunTcpFlags.fromBits (((dataOffsetByte flags &&& 0x01).toUInt16 <<< 8) |||
      flags.bits.toUInt8.toUInt16) = flags := by
  have h := flag_bytes_finite ⟨flags.bits.toNat, flag_bits_lt flags⟩
  simp only [UInt16.ofNat_toNat] at h
  cases flags with
  | mk bits masked =>
    simp only [TunTcpFlags.fromBits, dataOffsetByte, TunTcpFlags.mk.injEq]
    exact h

theorem dataOffsetByte_words : (dataOffsetByte flags >>> 4).toNat = 5 := by
  have h := data_offset_finite ⟨flags.bits.toNat, flag_bits_lt flags⟩
  simpa only [UInt16.ofNat_toNat, dataOffsetByte] using h

theorem parseTransportPorts_segment (seq ack : UInt32)
    (flags : TunTcpFlags) (win ck : UInt16) (payload : Bytes) :
    parseTransportPorts .tcp (writeTcpSegment sport dport seq
      ack flags win ck payload) = .ok (some sport, some dport) := by
  have hlen := writeTcpSegment_length sport dport seq
    ack flags win ck payload
  have h4 : 4 ≤ (writeTcpSegment sport dport seq
      ack flags win ck payload).length := by omega
  simp only [parseTransportPorts, true_or, ite_true, h4, dite_true]
  simp only [writeTcpSegment, be16, be32, cons_append, nil_append, getElem_cons_zero,
    getElem_cons_succ, ofBe16_digits]

theorem parseTunTcpSegment_of_parts (pkt : Bytes) (flow : TunPacketFlow)
    (sport dport : UInt16) (seq ack : UInt32)
    (flags : TunTcpFlags) (win ck : UInt16) (payload : Bytes) (hflow : flow.protocol = .tcp)
    (hparts : parseTunPacketParts pkt = .ok ⟨flow, writeTcpSegment sport dport
      seq ack flags win ck payload⟩) :
    parseTunTcpSegment pkt = .ok ⟨flow, seq, ack, 20, flags, win,
      payload⟩ := by
  have hlen := writeTcpSegment_length sport dport seq
    ack flags win ck payload
  have hword : (writeTcpSegment sport dport seq
      ack flags win ck payload)[12] = dataOffsetByte flags := by
    simp only [writeTcpSegment, be16, be32, cons_append, nil_append,
      getElem_cons_zero, getElem_cons_succ]
  simp only [parseTunTcpSegment, hparts, hflow, ne_eq, not_true_eq_false, ite_false, hlen,
    Nat.le_add_right, dite_true, hword, dataOffsetByte_words, show ¬ 5 * 4 < 20 by omega,
    show ¬ 20 + payload.length < 5 * 4 by omega]
  simp only [writeTcpSegment, be16, be32, cons_append, nil_append, getElem_cons_zero,
    getElem_cons_succ, ofBe16_digits, ofBe32_digits, drop_succ_cons, drop_zero,
    flags_of_bytes]

theorem toNat_ofNat16 {n : ℕ} (h : n < 65536) : (UInt16.ofNat n).toNat = n := by
  rw [UInt16.toNat_ofNat']
  omega

theorem parse_ipv4Header (proto : TunTransportProtocol) (src dst : Ipv4Addr)
    (ck : UInt16) (seg : Bytes) (sport dport : Option UInt16)
    (hproto : TunTransportProtocol.fromIpProtocolNumber proto.ipProtocolNumber = proto)
    (hfit : 20 + seg.length < 65536)
    (hports : parseTransportPorts proto seg = .ok (sport, dport)) :
    parseTunPacketParts (ipv4Header proto (20 + seg.length) src dst ck ++
      seg) = .ok ⟨⟨.ipv4, proto, .v4 src, .v4 dst, sport,
        dport⟩, seg⟩ := by
  have htotal := toNat_ofNat16 hfit
  simp only [ipv4Header]
  generalize UInt16.ofNat (20 + seg.length) = total at htotal
  have hlen : seg.length + 1 + 1 + 1 + 1 + 1 + 1 + 1 + 1 + 1 + 1 + 1 + 1 + 1 + 1 + 1 + 1 + 1 +
      1 + 1 + 1 = 20 + seg.length := by omega
  simp only [be16, Ipv4Addr.octets, cons_append, nil_append, parseTunPacketParts,
    show ((0x45 : UInt8) >>> 4 = 4) = True by decide, ite_true, parseIpv4PacketParts,
    length_cons, getElem_cons_zero, getElem_cons_succ, ofBe16_digits, hlen,
    Nat.le_add_right, dite_true, show ((0x45 : UInt8) &&& 0x0f).toNat * 4 = 20 by decide,
    show ofBe16 0 0 = 0 by decide]
  simp only [htotal, lt_irrefl, Nat.not_lt.mpr (Nat.le_add_right 20 seg.length), or_self,
    ite_false, show ((0 : UInt16) &&& 0x2000 != 0) = false by decide,
    show (0 : UInt16) &&& 0x1fff = 0 by decide, ne_eq, not_true_eq_false, Bool.false_eq_true,
    hproto]
  rw [take_of_length_le (by simp only [length_cons]; omega)]
  simp only [drop_succ_cons, drop_zero, hports]

theorem parse_ipv6Header (proto : TunTransportProtocol) (src dst : Ipv6Addr)
    (seg : Bytes) (sport dport : Option UInt16)
    (hproto : TunTransportProtocol.fromIpProtocolNumber proto.ipProtocolNumber = proto)
    (hext : isIpv6ExtensionHeader proto.ipProtocolNumber = false) (hfit : seg.length < 65536)
    (hports : parseTransportPorts proto seg = .ok (sport, dport)) :
    parseTunPacketParts (ipv6Header proto seg.length src dst ++ seg) =
      .ok ⟨⟨.ipv6, proto, .v6 src, .v6 dst, sport, dport⟩,
        seg⟩ := by
  have htotal := toNat_ofNat16 hfit
  have hskip : isIpv6SkippableExtensionHeader proto.ipProtocolNumber = false := by
    simp only [isIpv6ExtensionHeader, Bool.or_eq_false_iff] at hext
    simp only [isIpv6SkippableExtensionHeader, Bool.or_eq_false_iff]
    exact ⟨hext.1.1.1.1, hext.2⟩
  have hs := src.octets_length
  have hd := dst.octets_length
  have hlen : (src.octets ++ (dst.octets ++ seg)).length = 32 + seg.length := by
    simp only [length_append, hs, hd]
    omega
  have hsource : List.take 16 (src.octets ++ (dst.octets ++ seg)) =
      src.octets := take_left' hs
  have hdst : List.take 16 (List.drop 16 (src.octets ++
      (dst.octets ++ seg))) = dst.octets := by
    rw [drop_left' hs, take_left' hd]
  have hseg : List.drop 32 (src.octets ++ (dst.octets ++ seg)) = seg := by
    rw [show 32 = 16 + 16 from rfl, ← drop_drop, drop_left' hs, drop_left' hd]
  simp only [ipv6Header, be16, cons_append, nil_append, append_assoc]
  generalize UInt16.ofNat seg.length = total at htotal
  generalize src.octets ++ (dst.octets ++ seg) = body at *
  simp only [parseTunPacketParts, show ((0x60 : UInt8) >>> 4 = 4) = False by decide, ite_false,
    show ((0x60 : UInt8) >>> 4 = 6) = True by decide, ite_true, parseIpv6PacketParts,
    length_cons, getElem_cons_zero, getElem_cons_succ, ofBe16_digits]
  rw [dif_pos (by omega), dif_pos (by omega), parseIpv6TransportHeader]
  simp only [hskip, hext, Bool.false_eq_true, ite_false, hproto]
  rw [take_of_length_le (by simp only [length_cons]; omega)]
  simp only [drop_succ_cons, drop_zero, hseg, hports, ipv6AddrAt, hsource,
    hdst]

theorem parse_buildIpv4 (src dst : Ipv4Addr) (sport dport : UInt16)
    (seq ack : UInt32) (flags : TunTcpFlags) (win : UInt16)
    (payload : Bytes) (hfit : payload.length ≤ maxTcpPayloadLen .ipv4) :
    parseTunTcpSegment (buildIpv4TcpResponsePacket src dst sport dport
      seq ack flags win payload) =
      .ok ⟨⟨.ipv4, .tcp, .v4 src, .v4 dst, some sport, some dport⟩,
        seq, ack, 20, flags, win, payload⟩ := by
  simp only [maxTcpPayloadLen] at hfit
  simp only [buildIpv4TcpResponsePacket]
  generalize tcpChecksumIpv4 src dst _ = ck
  refine parseTunTcpSegment_of_parts _ _ sport dport seq
    ack flags win ck payload rfl ?_
  have hlen := writeTcpSegment_length sport dport seq
    ack flags win ck payload
  rw [← hlen]
  exact parse_ipv4Header .tcp src dst _ _ _ _ (by decide) (by omega)
    (parseTransportPorts_segment sport dport seq ack
      flags win ck payload)

theorem parse_buildIpv6 (src dst : Ipv6Addr) (sport dport : UInt16)
    (seq ack : UInt32) (flags : TunTcpFlags) (win : UInt16)
    (payload : Bytes) (hfit : payload.length ≤ maxTcpPayloadLen .ipv6) :
    parseTunTcpSegment (buildIpv6TcpResponsePacket src dst sport dport
      seq ack flags win payload) =
      .ok ⟨⟨.ipv6, .tcp, .v6 src, .v6 dst, some sport, some dport⟩,
        seq, ack, 20, flags, win, payload⟩ := by
  simp only [maxTcpPayloadLen] at hfit
  simp only [buildIpv6TcpResponsePacket]
  generalize tcpChecksumIpv6 src dst _ = ck
  refine parseTunTcpSegment_of_parts _ _ sport dport seq
    ack flags win ck payload rfl ?_
  have hlen := writeTcpSegment_length sport dport seq
    ack flags win ck payload
  rw [← hlen]
  exact parse_ipv6Header .tcp src dst _ _ _ (by decide) (by decide) (by omega)
    (parseTransportPorts_segment sport dport seq ack
      flags win ck payload)

theorem parse_buildTunTcpResponsePacket (flags : TunTcpFlags) (win : UInt16)
    (payload pkt : Bytes)
    (h : buildTunTcpResponsePacket flow seq ack flags win payload =
      .ok pkt) :
    parseTunTcpSegment pkt = .ok ⟨flow.reversed, seq, ack, 20, flags,
      win, payload⟩ := by
  obtain ⟨ipVersion, proto, sourceIp, destinationIp, sport, dport⟩ := flow
  simp only [buildTunTcpResponsePacket] at h
  split at h
  · cases h
  next hproto =>
    simp only [ne_eq, not_not] at hproto
    subst hproto
    split at h
    · cases h
    · cases h
    · split at h
      · split at h
        · cases h
        next hfit =>
          cases h
          exact parse_buildIpv4 _ _ _ _ _ _ _ _ _ (Nat.le_of_not_lt hfit)
      · split at h
        · cases h
        next hfit =>
          cases h
          exact parse_buildIpv6 _ _ _ _ _ _ _ _ _ (Nat.le_of_not_lt hfit)
      · cases h

theorem build_isOk_iff (flags : TunTcpFlags) (win : UInt16) (payload : Bytes) :
    (∃ pkt, buildTunTcpResponsePacket flow seq ack flags win
      payload = .ok pkt) ↔
      flow.Buildable ∧ payload.length ≤ maxTcpPayloadLen flow.ipVersion := by
  obtain ⟨ipVersion, proto, sourceIp, destinationIp, sport, dport⟩ := flow
  constructor
  · rintro ⟨pkt, h⟩
    simp only [buildTunTcpResponsePacket] at h
    grind [TunPacketFlow.Buildable, addressesMatch]
  · rintro ⟨⟨htcp, hsource, hdst, haddresses⟩, hfit⟩
    simp only at htcp hsource hdst haddresses hfit
    obtain ⟨sport, rfl⟩ := Option.isSome_iff_exists.mp hsource
    obtain ⟨dport, rfl⟩ := Option.isSome_iff_exists.mp hdst
    subst htcp
    have hnot := Nat.not_lt.mpr hfit
    cases ipVersion <;> cases sourceIp <;> cases destinationIp <;>
      first
      | exact absurd haddresses Bool.false_ne_true
      | exact ⟨_, if_neg hnot⟩

theorem writeUdpDatagram_length :
    (writeUdpDatagram sport dport ck payload).length = 8 + payload.length := by
  simp only [writeUdpDatagram, be16, length_append, length_cons, length_nil]

theorem parseTransportPorts_datagram :
    parseTransportPorts .udp (writeUdpDatagram sport dport ck payload) =
      .ok (some sport, some dport) := by
  have hlen := writeUdpDatagram_length sport dport ck payload
  have h4 : 4 ≤ (writeUdpDatagram sport dport ck payload).length := by omega
  simp only [parseTransportPorts, or_true, ite_true, h4, dite_true]
  simp only [writeUdpDatagram, be16, cons_append, nil_append, getElem_cons_zero,
    getElem_cons_succ, ofBe16_digits]

theorem parseTunUdpPayload_of_parts (pkt : Bytes) (flow : TunPacketFlow)
    (sport dport ck : UInt16) (payload : Bytes) (hflow : flow.protocol = .udp)
    (hfit : 8 + payload.length < 65536)
    (hparts : parseTunPacketParts pkt =
      .ok ⟨flow, writeUdpDatagram sport dport ck payload⟩) :
    parseTunUdpPayload pkt = .ok ⟨flow, payload⟩ := by
  have hlen := writeUdpDatagram_length sport dport ck payload
  have hfield : ofBe16 (writeUdpDatagram sport dport ck payload)[4]
      (writeUdpDatagram sport dport ck payload)[5] =
        UInt16.ofNat (8 + payload.length) := by
    simp only [writeUdpDatagram, be16, cons_append, nil_append, getElem_cons_zero,
      getElem_cons_succ, ofBe16_digits]
  simp only [parseTunUdpPayload, hparts, hflow, ne_eq, not_true_eq_false, ite_false, hlen,
    Nat.le_add_right, dite_true, hfield, toNat_ofNat16 hfit, lt_irrefl,
    Nat.not_lt.mpr (Nat.le_add_right 8 payload.length)]
  rw [take_of_length_le (by omega)]
  simp only [writeUdpDatagram, be16, cons_append, nil_append, drop_succ_cons,
    drop_zero]

theorem parse_buildIpv4Udp (src dst : Ipv4Addr) (sport dport : UInt16)
    (payload : Bytes) (hfit : payload.length ≤ maxUdpPayloadLen .ipv4) :
    parseTunUdpPayload (buildIpv4UdpResponsePacket src dst sport dport
      payload) = .ok ⟨⟨.ipv4, .udp, .v4 src, .v4 dst, some sport,
        some dport⟩, payload⟩ := by
  simp only [maxUdpPayloadLen] at hfit
  simp only [buildIpv4UdpResponsePacket]
  generalize udpChecksumIpv4 src dst _ = ck
  refine parseTunUdpPayload_of_parts _ _ sport dport ck payload rfl (by omega) ?_
  have hlen := writeUdpDatagram_length sport dport ck payload
  rw [← hlen]
  exact parse_ipv4Header .udp src dst _ _ _ _ (by decide) (by omega)
    (parseTransportPorts_datagram sport dport ck payload)

theorem parse_buildIpv6Udp (src dst : Ipv6Addr) (sport dport : UInt16)
    (payload : Bytes) (hfit : payload.length ≤ maxUdpPayloadLen .ipv6) :
    parseTunUdpPayload (buildIpv6UdpResponsePacket src dst sport dport
      payload) = .ok ⟨⟨.ipv6, .udp, .v6 src, .v6 dst, some sport,
        some dport⟩, payload⟩ := by
  simp only [maxUdpPayloadLen] at hfit
  simp only [buildIpv6UdpResponsePacket]
  generalize udpChecksumIpv6 src dst _ = ck
  refine parseTunUdpPayload_of_parts _ _ sport dport ck payload rfl (by omega) ?_
  have hlen := writeUdpDatagram_length sport dport ck payload
  rw [← hlen]
  exact parse_ipv6Header .udp src dst _ _ _ (by decide) (by decide) (by omega)
    (parseTransportPorts_datagram sport dport ck payload)

structure TunPacketFlow.Addressed (flow : TunPacketFlow) : Prop where
  source : flow.sourcePort.isSome
  destination : flow.destinationPort.isSome
  addresses : addressesMatch flow.ipVersion flow.destinationIp flow.sourceIp = true

section

variable {flow : TunPacketFlow}

theorem TunPacketFlow.Addressed.forms (h : flow.Addressed) :
    (∃ src dst sport dport, flow = ⟨.ipv4, flow.protocol,
      .v4 src, .v4 dst, some sport, some dport⟩) ∨
    ∃ src dst sport dport, flow = ⟨.ipv6, flow.protocol,
      .v6 src, .v6 dst, some sport, some dport⟩ := by
  obtain ⟨ipVersion, proto, src, dst, sport, dport⟩ := flow
  obtain ⟨hsource, hdst, haddresses⟩ := h
  obtain ⟨sport, rfl⟩ := Option.isSome_iff_exists.mp hsource
  obtain ⟨dport, rfl⟩ := Option.isSome_iff_exists.mp hdst
  cases ipVersion <;> cases src <;> cases dst <;>
    first
    | exact absurd haddresses Bool.false_ne_true
    | exact .inl ⟨_, _, _, _, rfl⟩
    | exact .inr ⟨_, _, _, _, rfl⟩

theorem buildTcp_tooLarge (hflow : flow.Addressed) (htcp : flow.protocol = .tcp)
    (seq ack : UInt32) (flags : TunTcpFlags) (win : UInt16)
    {payload : Bytes} (hlarge : maxTcpPayloadLen flow.ipVersion < payload.length) :
    buildTunTcpResponsePacket flow seq ack flags win payload =
      .error (.tcpResponsePayloadTooLarge flow.ipVersion payload.length
        (maxTcpPayloadLen flow.ipVersion)) := by
  rcases hflow.forms with ⟨_, _, _, _, hform⟩ | ⟨_, _, _, _, hform⟩ <;>
    rw [htcp] at hform <;> subst hform <;> exact if_pos hlarge

theorem buildUdp_tooLarge (hflow : flow.Addressed) (hudp : flow.protocol = .udp) {payload : Bytes}
    (hlarge : maxUdpPayloadLen flow.ipVersion < payload.length) :
    buildTunUdpResponsePacket flow payload = .error (.udpResponsePayloadTooLarge flow.ipVersion
      payload.length (maxUdpPayloadLen flow.ipVersion)) := by
  rcases hflow.forms with ⟨_, _, _, _, hform⟩ | ⟨_, _, _, _, hform⟩ <;>
    rw [hudp] at hform <;> subst hform <;> exact if_pos hlarge

theorem parse_buildTunUdpResponsePacket (hflow : flow.Addressed) (hudp : flow.protocol = .udp)
    {payload : Bytes} (hfit : payload.length ≤ maxUdpPayloadLen flow.ipVersion) :
    ∃ pkt, buildTunUdpResponsePacket flow payload = .ok pkt ∧
      parseTunUdpPayload pkt = .ok ⟨flow.reversed, payload⟩ := by
  have hnot := Nat.not_lt.mpr hfit
  rcases hflow.forms with ⟨_, _, _, _, hform⟩ | ⟨_, _, _, _, hform⟩
  · rw [hudp] at hform
    subst hform
    exact ⟨_, if_neg hnot, parse_buildIpv4Udp _ _ _ _ _ hfit⟩
  · rw [hudp] at hform
    subst hform
    exact ⟨_, if_neg hnot, parse_buildIpv6Udp _ _ _ _ _ hfit⟩

end

/-- Up to the builders' limits every answer is built and reads back as what it was built from;
above them it is refused. -/
theorem answers_parse_back {flow : TunPacketFlow} (hflow : flow.Addressed) :
    (flow.protocol = .tcp → ∀ (sequenceNumber acknowledgmentNumber : UInt32) (flags : TunTcpFlags)
      (windowSize : UInt16) (payload : Bytes),
      (payload.length ≤ maxTcpPayloadLen flow.ipVersion →
        ∃ packet, buildTunTcpResponsePacket flow sequenceNumber acknowledgmentNumber flags windowSize
          payload = .ok packet ∧
          parseTunTcpSegment packet = .ok ⟨flow.reversed, sequenceNumber, acknowledgmentNumber, 20,
            flags, windowSize, payload⟩) ∧
      (maxTcpPayloadLen flow.ipVersion < payload.length →
        buildTunTcpResponsePacket flow sequenceNumber acknowledgmentNumber flags windowSize payload =
          .error (.tcpResponsePayloadTooLarge flow.ipVersion payload.length
            (maxTcpPayloadLen flow.ipVersion)))) ∧
    (flow.protocol = .udp → ∀ payload : Bytes,
      (payload.length ≤ maxUdpPayloadLen flow.ipVersion →
        ∃ packet, buildTunUdpResponsePacket flow payload = .ok packet ∧
          parseTunUdpPayload packet = .ok ⟨flow.reversed, payload⟩) ∧
      (maxUdpPayloadLen flow.ipVersion < payload.length →
        buildTunUdpResponsePacket flow payload = .error (.udpResponsePayloadTooLarge flow.ipVersion
          payload.length (maxUdpPayloadLen flow.ipVersion)))) := by
  constructor
  · intro htcp sequenceNumber acknowledgmentNumber flags windowSize payload
    refine ⟨fun hfit => ?_, buildTcp_tooLarge hflow htcp _ _ _ _⟩
    have hbuildable : flow.Buildable :=
      ⟨htcp, hflow.source, hflow.destination, hflow.addresses⟩
    obtain ⟨packet, hpkt⟩ := (build_isOk_iff flow sequenceNumber acknowledgmentNumber flags
      windowSize payload).mpr ⟨hbuildable, hfit⟩
    exact ⟨packet, hpkt, parse_buildTunTcpResponsePacket _ _ _ _ _ _ _ hpkt⟩
  · intro hudp payload
    exact ⟨parse_buildTunUdpResponsePacket hflow hudp, buildUdp_tooLarge hflow hudp⟩

/-- A query to a name server, whose answer is built and read back. -/
theorem answers_parse_back_query :
    let flow : TunPacketFlow :=
      ⟨.ipv4, .udp, .v4 ⟨10, 0, 0, 2⟩, .v4 ⟨1, 1, 1, 1⟩, some 40000, some 53⟩
    ∃ packet, buildTunUdpResponsePacket flow [1, 2, 3] = .ok packet ∧
      parseTunUdpPayload packet = .ok ⟨flow.reversed, [1, 2, 3]⟩ := by
  intro flow
  have hflow : flow.Addressed := ⟨rfl, rfl, rfl⟩
  exact ((answers_parse_back hflow).2 rfl [1, 2, 3]).1 (by decide)

end KeliNative.Tun
