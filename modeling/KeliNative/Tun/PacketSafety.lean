import KeliNative.Lib.Panic
import KeliNative.Tun.Packet
import Mathlib.Logic.Relation

/-!
# Parsing stays inside the packet

The parsers once more, with operations that can panic: none of them does.
-/

namespace KeliNative.Tun
open BigEndian Panicking List

abbrev PacketParser := Panicking TunPacketError

/-! ### The parsers as the source writes them -/

def checkedParseTransportPorts (protocol : TunTransportProtocol) (payload : Bytes) :
    PacketParser (Option UInt16 × Option UInt16) :=
  if protocol = .tcp ∨ protocol = .udp then
    if payload.length < 4 then throw (.transportHeaderTooShort protocol 4 payload.length)
    else do
      let sourcePort := ofBe16 (← index payload 0) (← index payload 1)
      let destinationPort := ofBe16 (← index payload 2) (← index payload 3)
      return (some sourcePort, some destinationPort)
  else return (none, none)

def checkedParseIpv4PacketParts (packet : Bytes) : PacketParser TunPacketParts :=
  if packet.length < 20 then throw .packetTooShort
  else do
    let headerLen := ((← index packet 0) &&& 0x0f).toNat * 4
    if headerLen < 20 ∨ packet.length < headerLen then
      throw (.ipv4HeaderTooShort headerLen packet.length)
    else do
      let totalLength := (ofBe16 (← index packet 2) (← index packet 3)).toNat
      if totalLength < headerLen then throw (.ipv4TotalLengthTooShort totalLength headerLen)
      else if packet.length < totalLength then
        throw (.ipv4PacketTruncated totalLength packet.length)
      else do
        let fragmentControl := ofBe16 (← index packet 6) (← index packet 7)
        let moreFragments := fragmentControl &&& 0x2000 != 0
        let fragmentOffset := fragmentControl &&& 0x1fff
        if moreFragments = true ∨ fragmentOffset ≠ 0 then
          throw (.ipv4FragmentedPacket fragmentOffset moreFragments)
        else do
          let protocol := TunTransportProtocol.fromIpProtocolNumber (← index packet 9)
          let sourceIp := IpAddr.v4 ⟨← index packet 12, ← index packet 13, ← index packet 14,
            ← index packet 15⟩
          let destinationIp := IpAddr.v4 ⟨← index packet 16, ← index packet 17, ← index packet 18,
            ← index packet 19⟩
          let transportPayload ← slice packet headerLen totalLength
          let (sourcePort, destinationPort) ← checkedParseTransportPorts protocol transportPayload
          return ⟨⟨.ipv4, protocol, sourceIp, destinationIp, sourcePort, destinationPort⟩,
            transportPayload⟩

/-- One turn of the extension-header loop: the next header and the offset it leads to, or nothing
when the loop is left. -/
def extensionTurn (packet : Bytes) (totalLength : ℕ) (state : UInt8 × ℕ) :
    PacketParser (Option (UInt8 × ℕ)) :=
  if isIpv6SkippableExtensionHeader state.1 then do
    let availableLen ← subtract totalLength state.2
    if availableLen < 2 then throw (.ipv6ExtensionHeaderTruncated state.1 2 availableLen)
    else do
      let extensionLen := ((← index packet (state.2 + 1)).toNat + 1) * 8
      if availableLen < extensionLen then
        throw (.ipv6ExtensionHeaderTruncated state.1 extensionLen availableLen)
      else do
        let nextHeader ← index packet state.2
        return some (nextHeader, state.2 + extensionLen)
  else return none

/-- The loop for at most `fuel` turns; a loop that is still running then counts as a panic. -/
def checkedParseIpv6TransportHeader (packet : Bytes) (totalLength : ℕ) :
    ℕ → UInt8 × ℕ → PacketParser (UInt8 × ℕ)
  | 0, _ => ExceptT.mk none
  | fuel + 1, state => do
    match ← extensionTurn packet totalLength state with
    | some state => checkedParseIpv6TransportHeader packet totalLength fuel state
    | none =>
      if isIpv6ExtensionHeader state.1 then throw (.ipv6ExtensionHeaderUnsupported state.1)
      else return state

def checkedIpv6Addr (packet : Bytes) (start : ℕ) : PacketParser Ipv6Addr := do
  let octets ← slice packet start (start + 16)
  if h : octets.length = 16 then return ⟨octets, h⟩ else ExceptT.mk none

def checkedParseIpv6PacketParts (packet : Bytes) : PacketParser TunPacketParts :=
  if packet.length < 40 then throw .packetTooShort
  else do
    let totalLength := 40 + (ofBe16 (← index packet 4) (← index packet 5)).toNat
    if packet.length < totalLength then throw (.ipv6PacketTruncated totalLength packet.length)
    else do
      let (nextHeader, transportOffset) ←
        checkedParseIpv6TransportHeader packet totalLength packet.length (← index packet 6, 40)
      let protocol := TunTransportProtocol.fromIpProtocolNumber nextHeader
      let sourceIp ← checkedIpv6Addr packet 8
      let destinationIp ← checkedIpv6Addr packet 24
      let transportPayload ← slice packet transportOffset totalLength
      let (sourcePort, destinationPort) ← checkedParseTransportPorts protocol transportPayload
      return ⟨⟨.ipv6, protocol, .v6 sourceIp, .v6 destinationIp, sourcePort, destinationPort⟩,
        transportPayload⟩

def checkedParseTunPacketParts (packet : Bytes) : PacketParser TunPacketParts :=
  match packet with
  | [] => throw .packetTooShort
  | first :: _ =>
    if first >>> 4 = 4 then checkedParseIpv4PacketParts packet
    else if first >>> 4 = 6 then checkedParseIpv6PacketParts packet
    else throw (.unsupportedIpVersion (first >>> 4))

def checkedParseTunPacketFlow (packet : Bytes) : PacketParser TunPacketFlow := do
  let parts ← checkedParseTunPacketParts packet
  return parts.flow

def checkedParseTunTcpSegment (packet : Bytes) : PacketParser TunTcpSegment := do
  let ⟨flow, tp⟩ ← checkedParseTunPacketParts packet
  if flow.protocol ≠ .tcp then throw (.expectedTcpSegment flow.protocol)
  else if tp.length < 20 then throw (.transportHeaderTooShort .tcp 20 tp.length)
  else do
    let headerLen := ((← index tp 12) >>> 4).toNat * 4
    if headerLen < 20 then throw (.tcpDataOffsetTooSmall headerLen)
    else if tp.length < headerLen then throw (.tcpSegmentTruncated headerLen tp.length)
    else do
      let flags := (((← index tp 12) &&& 0x01).toUInt16 <<< 8) ||| (← index tp 13).toUInt16
      let sequenceNumber := ofBe32 (← index tp 4) (← index tp 5) (← index tp 6) (← index tp 7)
      let acknowledgmentNumber := ofBe32 (← index tp 8) (← index tp 9) (← index tp 10) (← index tp 11)
      let windowSize := ofBe16 (← index tp 14) (← index tp 15)
      let payload ← slice tp headerLen tp.length
      return ⟨flow, sequenceNumber, acknowledgmentNumber, headerLen, .fromBits flags, windowSize,
        payload⟩

def checkedParseTunUdpPayload (packet : Bytes) : PacketParser TunUdpPayload := do
  let ⟨flow, tp⟩ ← checkedParseTunPacketParts packet
  if flow.protocol ≠ .udp then throw (.expectedUdpPayload flow.protocol)
  else if tp.length < 8 then throw (.transportHeaderTooShort .udp 8 tp.length)
  else do
    let udpLength := (ofBe16 (← index tp 4) (← index tp 5)).toNat
    if udpLength < 8 then throw (.udpLengthTooShort udpLength)
    else if tp.length < udpLength then throw (.udpPacketTruncated udpLength tp.length)
    else do
      let payload ← slice tp 8 udpLength
      return ⟨flow, payload⟩

/-! ### No operation panics -/

theorem checkedParseTransportPorts_eq (proto : TunTransportProtocol) (data : Bytes) :
    checkedParseTransportPorts proto data = returned (parseTransportPorts proto data) := by
  unfold checkedParseTransportPorts parseTransportPorts
  split
  · by_cases h : 4 ≤ data.length
    · rw [if_neg (Nat.not_lt.mpr h), dif_pos h]
      simp only [index_eq (show 0 < data.length by omega), index_eq (show 1 < data.length by omega),
        index_eq (show 2 < data.length by omega), index_eq (show 3 < data.length by omega),
        pure_bind]
      rfl
    · rw [if_pos (Nat.lt_of_not_le h), dif_neg h]
      rfl
  · rfl

theorem checkedParseIpv4PacketParts_eq (packet : Bytes) :
    checkedParseIpv4PacketParts packet = returned (parseIpv4PacketParts packet) := by
  unfold checkedParseIpv4PacketParts parseIpv4PacketParts
  by_cases h : 20 ≤ packet.length
  · rw [if_neg (Nat.not_lt.mpr h), dif_pos h]
    have hindex (i : ℕ) (hi : i < 20) : index (ε := TunPacketError) packet i = pure packet[i] :=
      index_eq (by omega)
    simp only [hindex, Nat.reduceLT, pure_bind]
    split
    · rfl
    next hhead =>
      split
      · rfl
      next htotal =>
        split
        · rfl
        next hfits =>
          split
          · rfl
          · rw [slice_eq (Nat.le_of_not_lt htotal) (Nat.le_of_not_lt hfits), pure_bind,
              checkedParseTransportPorts_eq]
            cases parseTransportPorts _ _ <;> rfl
  · rw [if_pos (Nat.lt_of_not_le h), dif_neg h]
    rfl

variable {packet : Bytes} {parts : TunPacketParts}

theorem extensionTurn_eq {len off : ℕ} (nextHeader : UInt8)
    (htotal : len ≤ packet.length) (hoff : off ≤ len) :
    extensionTurn packet len (nextHeader, off) =
      if isIpv6SkippableExtensionHeader nextHeader then
        if h : len - off < 2 then
          throw (.ipv6ExtensionHeaderTruncated nextHeader 2 (len - off))
        else
          let extensionLen := (packet[off + 1].toNat + 1) * 8
          if len - off < extensionLen then
            throw (.ipv6ExtensionHeaderTruncated nextHeader extensionLen (len - off))
          else pure (some (packet[off], off + extensionLen))
      else pure none := by
  unfold extensionTurn
  split
  · rw [subtract_eq hoff, pure_bind]
    by_cases h : len - off < 2
    · rw [if_pos h, dif_pos h]
    · rw [if_neg h, dif_neg h, index_eq (show off + 1 < packet.length by omega), pure_bind]
      simp only [index_eq (show off < packet.length by omega), pure_bind]
  · rfl

def ExtensionLoop (packet : Bytes) (totalLength : ℕ) (state state' : UInt8 × ℕ) : Prop :=
  extensionTurn packet totalLength state = pure (some state')

section

variable {totalLength : ℕ} (htotal : totalLength ≤ packet.length)

include htotal

theorem extensionLoop_offset {state st' : UInt8 × ℕ} (hoff : state.2 ≤ totalLength)
    (h : ExtensionLoop packet totalLength state st') :
    state.2 < st'.2 ∧ st'.2 ≤ totalLength := by
  obtain ⟨nextHeader, off⟩ := state
  rw [ExtensionLoop, extensionTurn_eq nextHeader htotal hoff] at h
  split at h
  · split at h
    · cases h
    · dsimp only at h
      split at h
      · cases h
      next hextension =>
        cases h
        dsimp only at hoff ⊢
        omega
  · cases h

theorem extensionLoop_reaches {state st' : UInt8 × ℕ} (hoff : state.2 ≤ totalLength)
    (h : Relation.ReflTransGen (ExtensionLoop packet totalLength) state st') :
    state.2 ≤ st'.2 ∧ st'.2 ≤ totalLength := by
  induction h with
  | refl => exact ⟨le_rfl, hoff⟩
  | tail _ hturn ih =>
    obtain ⟨hlower, hupper⟩ := extensionLoop_offset htotal ih.2 hturn
    exact ⟨by omega, hupper⟩

theorem checkedParseIpv6TransportHeader_eq {fuel off : ℕ} (nextHeader : UInt8)
    (hoff : off ≤ totalLength) (hfuel : totalLength - off < fuel) :
    checkedParseIpv6TransportHeader packet totalLength fuel (nextHeader, off) =
      returned (parseIpv6TransportHeader packet totalLength htotal nextHeader off) := by
  induction fuel generalizing nextHeader off with
  | zero => exact absurd hfuel (Nat.not_lt_zero _)
  | succ fuel ih =>
    rw [checkedParseIpv6TransportHeader, extensionTurn_eq nextHeader htotal hoff,
      parseIpv6TransportHeader]
    split
    · split
      · rfl
      next havailable =>
        dsimp only
        split
        · rfl
        next hextension =>
          rw [pure_bind]
          exact ih _ (by omega) (by omega)
    · rw [pure_bind]
      dsimp only
      split <;> rfl

end

theorem parseIpv6TransportHeader_reached {len : ℕ} {htotal : len ≤ packet.length}
    {nextHeader : UInt8} {off : ℕ} {found : UInt8 × ℕ} (hoff : off ≤ len)
    (h : parseIpv6TransportHeader packet len htotal nextHeader off = .ok found) :
    Relation.ReflTransGen (ExtensionLoop packet len) (nextHeader, off) found ∧
      isIpv6ExtensionHeader found.1 = false := by
  induction hk : len - off using Nat.strong_induction_on generalizing nextHeader off with
  | h k ih =>
    have hturn := extensionTurn_eq nextHeader htotal hoff
    rw [parseIpv6TransportHeader] at h
    split at h
    next hskip =>
      rw [if_pos hskip] at hturn
      split at h
      · cases h
      next havailable =>
        rw [dif_neg havailable] at hturn
        dsimp only at h hturn
        split at h
        · cases h
        next hextension =>
          rw [if_neg hextension] at hturn
          obtain ⟨hreach, hend⟩ := ih _ (by omega) (by omega) h rfl
          exact ⟨.head hturn hreach, hend⟩
    next hskip =>
      split at h
      · cases h
      next hext =>
        cases h
        exact ⟨.refl, by simpa using hext⟩

theorem checkedIpv6Addr_eq {start : ℕ} (h : start + 16 ≤ packet.length) :
    checkedIpv6Addr packet start = pure (ipv6AddrAt packet start h) := by
  have hslice : (packet.take (start + 16)).drop start = (packet.drop start).take 16 := by
    rw [drop_take, Nat.add_sub_cancel_left]
  have hlength : ((packet.drop start).take 16).length = 16 := by
    rw [length_take, length_drop]
    omega
  rw [checkedIpv6Addr, slice_eq (Nat.le_add_right start 16) h, pure_bind, hslice, dif_pos hlength]
  rfl

theorem checkedParseIpv6PacketParts_eq (packet : Bytes) :
    checkedParseIpv6PacketParts packet = returned (parseIpv6PacketParts packet) := by
  unfold checkedParseIpv6PacketParts parseIpv6PacketParts
  by_cases h : 40 ≤ packet.length
  · rw [if_neg (Nat.not_lt.mpr h), dif_pos h]
    simp only [index_eq (show 4 < packet.length by omega), index_eq (show 5 < packet.length by omega),
      index_eq (show 6 < packet.length by omega), pure_bind]
    by_cases htotal : 40 + (ofBe16 packet[4] packet[5]).toNat ≤ packet.length
    · rw [if_neg (Nat.not_lt.mpr htotal), dif_pos htotal, checkedParseIpv6TransportHeader_eq htotal
        packet[6] (Nat.le_add_right 40 _) (by omega)]
      cases hhead : parseIpv6TransportHeader packet _ htotal packet[6] 40 with
      | error error => rfl
      | ok found =>
        obtain ⟨hreach, -⟩ := parseIpv6TransportHeader_reached (Nat.le_add_right 40 _) hhead
        obtain ⟨-, hoff⟩ := extensionLoop_reaches htotal (Nat.le_add_right 40 _) hreach
        obtain ⟨nextHeader, off⟩ := found
        rw [returned_ok, pure_bind]
        simp only [checkedIpv6Addr_eq (show 8 + 16 ≤ packet.length by omega),
          checkedIpv6Addr_eq (show 24 + 16 ≤ packet.length by omega), slice_eq hoff htotal,
          pure_bind, checkedParseTransportPorts_eq]
        cases parseTransportPorts _ _ <;> rfl
    · rw [if_pos (Nat.lt_of_not_le htotal), dif_neg htotal]
      rfl
  · rw [if_pos (Nat.lt_of_not_le h), dif_neg h]
    rfl

theorem checkedParseTunPacketParts_eq (packet : Bytes) :
    checkedParseTunPacketParts packet = returned (parseTunPacketParts packet) := by
  cases packet with
  | nil => rfl
  | cons first rest =>
    unfold checkedParseTunPacketParts parseTunPacketParts
    dsimp only
    rw [checkedParseIpv4PacketParts_eq, checkedParseIpv6PacketParts_eq]
    split
    · rfl
    · split <;> rfl

theorem checkedParseTunPacketFlow_eq (packet : Bytes) :
    checkedParseTunPacketFlow packet = returned (parseTunPacketFlow packet) := by
  rw [checkedParseTunPacketFlow, checkedParseTunPacketParts_eq, parseTunPacketFlow]
  cases parseTunPacketParts packet <;> rfl

theorem checkedParseTunTcpSegment_eq (packet : Bytes) :
    checkedParseTunTcpSegment packet = returned (parseTunTcpSegment packet) := by
  rw [checkedParseTunTcpSegment, checkedParseTunPacketParts_eq, parseTunTcpSegment]
  cases parseTunPacketParts packet with
  | error error => rfl
  | ok parts =>
    obtain ⟨flow, tp⟩ := parts
    rw [returned_ok, pure_bind]
    dsimp only
    split
    · rfl
    by_cases h : 20 ≤ tp.length
    · rw [if_neg (Nat.not_lt.mpr h), dif_pos h]
      have hindex (i : ℕ) (hi : i < 20) : index (ε := TunPacketError) tp i = pure tp[i] :=
        index_eq (by omega)
      simp only [hindex, Nat.reduceLT, pure_bind]
      split
      · rfl
      · split
        · rfl
        next hhead =>
          rw [slice_eq (Nat.le_of_not_lt hhead) le_rfl, pure_bind, take_length]
          rfl
    · rw [if_pos (Nat.lt_of_not_le h), dif_neg h]
      rfl

theorem checkedParseTunUdpPayload_eq (packet : Bytes) :
    checkedParseTunUdpPayload packet = returned (parseTunUdpPayload packet) := by
  rw [checkedParseTunUdpPayload, checkedParseTunPacketParts_eq, parseTunUdpPayload]
  cases parseTunPacketParts packet with
  | error error => rfl
  | ok parts =>
    obtain ⟨flow, tp⟩ := parts
    rw [returned_ok, pure_bind]
    dsimp only
    split
    · rfl
    by_cases h : 8 ≤ tp.length
    · rw [if_neg (Nat.not_lt.mpr h), dif_pos h]
      simp only [index_eq (show 4 < tp.length by omega), index_eq (show 5 < tp.length by omega),
        pure_bind]
      split
      · rfl
      next hshort =>
        split
        · rfl
        next hlong =>
          rw [slice_eq (Nat.le_of_not_lt hshort) (Nat.le_of_not_lt hlong), pure_bind]
          rfl
    · rw [if_pos (Nat.lt_of_not_le h), dif_neg h]
      rfl

/-! ### Where the payload lies -/

def declaredLength (packet : Bytes) : ℕ :=
  if packet.getD 0 0 >>> 4 = 4 then (ofBe16 (packet.getD 2 0) (packet.getD 3 0)).toNat
  else 40 + (ofBe16 (packet.getD 4 0) (packet.getD 5 0)).toNat

/-- Where the transport header of a packet starts. -/
inductive TransportStart (packet : Bytes) : ℕ → Prop where
  | ipv4 (hver : packet.getD 0 0 >>> 4 = 4)
      (hmore : ofBe16 (packet.getD 6 0) (packet.getD 7 0) &&& 0x2000 = 0)
      (hoff : ofBe16 (packet.getD 6 0) (packet.getD 7 0) &&& 0x1fff = 0)
      (hhead : 20 ≤ (packet.getD 0 0 &&& 0x0f).toNat * 4) :
      TransportStart packet ((packet.getD 0 0 &&& 0x0f).toNat * 4)
  | ipv6 {nextHeader : UInt8} {offset : ℕ} (hver : packet.getD 0 0 >>> 4 = 6)
      (hloop : Relation.ReflTransGen (ExtensionLoop packet (declaredLength packet))
        (packet.getD 6 0, 40) (nextHeader, offset))
      (hend : isIpv6ExtensionHeader nextHeader = false) : TransportStart packet offset

/-- The transport payload is what lies between `start` and the declared length. -/
structure TransportAt (packet : Bytes) (start : ℕ) (transportPayload : Bytes) : Prop where
  begins : TransportStart packet start
  start_le : start ≤ declaredLength packet
  declared_le : declaredLength packet ≤ packet.length
  payload : transportPayload = (packet.take (declaredLength packet)).drop start

theorem getD_eq {i : ℕ} (h : i < packet.length) : packet.getD i 0 = packet[i] :=
  (getElem_eq_getD 0).symm

theorem TransportAt.length {tp : Bytes} {start : ℕ} (h : TransportAt packet start tp) :
    tp.length = declaredLength packet - start := by
  rw [h.payload, length_drop, length_take, Nat.min_eq_left h.declared_le]

theorem TransportAt.byte {tp : Bytes} {start : ℕ} (h : TransportAt packet start tp) {i : ℕ}
    (hi : i < tp.length) : tp[i] = packet.getD (start + i) 0 := by
  have hlength := h.length
  have hdecl := h.declared_le
  rw [getD_eq (by omega)]
  simp only [h.payload, getElem_drop, getElem_take]

theorem parseIpv4PacketParts_at (hver : packet.getD 0 0 >>> 4 = 4)
    (h : parseIpv4PacketParts packet = .ok parts) :
    ∃ start, TransportAt packet start parts.transportPayload := by
  unfold parseIpv4PacketParts at h
  split at h
  next hlen =>
    have hdecl : declaredLength packet = (ofBe16 packet[2] packet[3]).toNat := by
      rw [declaredLength, if_pos hver, getD_eq (by omega), getD_eq (by omega)]
    have hihl : (packet[0] &&& 0x0f).toNat * 4 = (packet.getD 0 0 &&& 0x0f).toNat * 4 := by
      rw [getD_eq (by omega)]
    have hctl : ofBe16 packet[6] packet[7] = ofBe16 (packet.getD 6 0) (packet.getD 7 0) := by
      rw [getD_eq (by omega), getD_eq (by omega)]
    dsimp only at h
    rw [← hdecl, hihl, hctl] at h
    split at h
    · cases h
    next hhead =>
      split at h
      · cases h
      next htotal =>
        split at h
        · cases h
        next hfits =>
          split at h
          · cases h
          next hfragment =>
            rw [not_or, bne_iff_ne, ne_eq, not_not, not_not] at hfragment
            cases hports : parseTransportPorts (.fromIpProtocolNumber packet[9])
              ((packet.take (declaredLength packet)).drop ((packet.getD 0 0 &&& 0x0f).toNat * 4)) with
            | error error =>
              rw [hports] at h
              cases h
            | ok ports =>
              rw [hports] at h
              cases h
              exact ⟨_, .ipv4 hver hfragment.1 hfragment.2 (by omega), Nat.le_of_not_lt htotal,
                Nat.le_of_not_lt hfits, rfl⟩
  · cases h

theorem parseIpv6PacketParts_at (hver : packet.getD 0 0 >>> 4 = 6)
    (h : parseIpv6PacketParts packet = .ok parts) :
    ∃ start, TransportAt packet start parts.transportPayload := by
  unfold parseIpv6PacketParts at h
  split at h
  next hlen =>
    have hdecl : declaredLength packet = 40 + (ofBe16 packet[4] packet[5]).toNat := by
      rw [declaredLength, hver, if_neg (by decide), getD_eq (by omega), getD_eq (by omega)]
    have hfirst : packet.getD 6 0 = packet[6] := getD_eq (by omega)
    dsimp only at h
    split at h
    next htotal =>
      cases hhead : parseIpv6TransportHeader packet _ htotal packet[6] 40 with
      | error error =>
        rw [hhead] at h
        cases h
      | ok found =>
        obtain ⟨hreach, hend⟩ := parseIpv6TransportHeader_reached (Nat.le_add_right 40 _) hhead
        obtain ⟨-, hoff⟩ := extensionLoop_reaches htotal (Nat.le_add_right 40 _) hreach
        obtain ⟨nextHeader, off⟩ := found
        rw [hhead] at h
        dsimp only at h
        cases hports : parseTransportPorts (.fromIpProtocolNumber nextHeader)
          ((packet.take (40 + (ofBe16 packet[4] packet[5]).toNat)).drop off) with
        | error error =>
          rw [hports] at h
          cases h
        | ok ports =>
          rw [hports] at h
          cases h
          rw [← hdecl, ← hfirst] at hreach
          rw [← hdecl] at hoff htotal
          exact ⟨off, .ipv6 hver hreach hend, hoff, htotal, by rw [hdecl]⟩
    · cases h
  · cases h

theorem parseTunPacketParts_at (h : parseTunPacketParts packet = .ok parts) :
    ∃ start, TransportAt packet start parts.transportPayload := by
  cases packet with
  | nil => cases h
  | cons first rest =>
    unfold parseTunPacketParts at h
    dsimp only at h
    split at h
    next hver => exact parseIpv4PacketParts_at hver h
    · split at h
      next hver => exact parseIpv6PacketParts_at hver h
      · cases h

/-! ### Bytes beyond the declared length -/

section

variable {front : Bytes}

theorem parseIpv4PacketParts_front (hlen : 20 ≤ front.length) (h0 : 0 < front.length)
    (h2 : 2 < front.length) (h3 : 3 < front.length) (hhead : 20 ≤ (front[0] &&& 0x0f).toNat * 4)
    (hheader_le : (front[0] &&& 0x0f).toNat * 4 ≤ front.length)
    (htotal : (ofBe16 front[2] front[3]).toNat = front.length) (back : Bytes) :
    parseIpv4PacketParts (front ++ back) = parseIpv4PacketParts front := by
  have hlen' : 20 ≤ (front ++ back).length := by
    rw [length_append]
    omega
  have hbyte (i : ℕ) (hi : i < 20) : (front ++ back)[i] = front[i] :=
    getElem_append_left (by omega)
  have hok (length : ℕ) (h : front.length ≤ length) :
      ¬((front[0] &&& 0x0f).toNat * 4 < 20 ∨ length < (front[0] &&& 0x0f).toNat * 4) := by omega
  unfold parseIpv4PacketParts
  rw [dif_pos hlen', dif_pos hlen]
  simp only [hbyte, Nat.reduceLT, htotal]
  rw [if_neg (hok _ (by rw [length_append]; omega)), if_neg (hok _ le_rfl),
    if_neg (Nat.not_lt.mpr hheader_le), if_neg (Nat.not_lt.mpr hheader_le),
    if_neg (show ¬(front ++ back).length < front.length by rw [length_append]; omega),
    if_neg (lt_irrefl _), take_left' rfl, take_length]

theorem parseIpv6TransportHeader_front {len : ℕ} (htotal : len ≤ front.length)
    {back : Bytes} (htotal' : len ≤ (front ++ back).length) (nextHeader : UInt8) (off : ℕ) :
    parseIpv6TransportHeader (front ++ back) len htotal' nextHeader off =
      parseIpv6TransportHeader front len htotal nextHeader off := by
  induction hk : len - off using Nat.strong_induction_on generalizing nextHeader off with
  | h k ih =>
    rw [parseIpv6TransportHeader, parseIpv6TransportHeader]
    split
    · split
      · rfl
      next havailable =>
        have hlen : (front ++ back)[off + 1] = front[off + 1] :=
          getElem_append_left (by omega)
        have hnext : (front ++ back)[off] = front[off] := getElem_append_left (by omega)
        dsimp only
        rw [hlen, hnext]
        split
        · rfl
        · exact ih _ (by omega) _ _ rfl
    · rfl

theorem parseIpv6PacketParts_front (hlen : 40 ≤ front.length) (h4 : 4 < front.length)
    (h5 : 5 < front.length)
    (htotal : 40 + (ofBe16 front[4] front[5]).toNat = front.length) (back : Bytes) :
    parseIpv6PacketParts (front ++ back) = parseIpv6PacketParts front := by
  have hlen' : 40 ≤ (front ++ back).length := by
    rw [length_append]
    omega
  have hbyte (i : ℕ) (hi : i < 40) : (front ++ back)[i] = front[i] :=
    getElem_append_left (by omega)
  have haddr (start : ℕ) (h : start + 16 ≤ front.length) :
      ipv6AddrAt (front ++ back) start (by rw [length_append]; omega) =
        ipv6AddrAt front start h := by
    simp only [ipv6AddrAt, Ipv6Addr.mk.injEq]
    rw [drop_append_of_le_length (by omega), take_append_of_le_length]
    rw [length_drop]
    omega
  unfold parseIpv6PacketParts
  rw [dif_pos hlen', dif_pos hlen]
  simp only [hbyte, Nat.reduceLT, htotal]
  rw [dif_pos (show front.length ≤ (front ++ back).length by rw [length_append]; omega),
    dif_pos le_rfl, parseIpv6TransportHeader_front le_rfl, take_left' rfl, take_length,
    haddr 8 (by omega), haddr 24 (by omega)]

end

variable {packet : Bytes}

theorem parseTunPacketParts_ipv4 (hver : packet.getD 0 0 >>> 4 = 4) :
    parseTunPacketParts packet = parseIpv4PacketParts packet := by
  cases packet with
  | nil => exact absurd hver (by decide)
  | cons first rest => exact if_pos hver

theorem parseTunPacketParts_ipv6 (hver : packet.getD 0 0 >>> 4 = 6) :
    parseTunPacketParts packet = parseIpv6PacketParts packet := by
  cases packet with
  | nil => exact absurd hver (by decide)
  | cons first rest =>
    have hfirst : first >>> 4 = 6 := hver
    unfold parseTunPacketParts
    dsimp only
    rw [hfirst, if_neg (by decide), if_pos rfl]

theorem parseTunPacketParts_front {start : ℕ} {transportPayload : Bytes}
    (h : TransportAt packet start transportPayload) (back : Bytes) :
    parseTunPacketParts (packet.take (declaredLength packet) ++ back) =
      parseTunPacketParts (packet.take (declaredLength packet)) := by
  have hfront : (packet.take (declaredLength packet)).length = declaredLength packet := by
    rw [length_take, Nat.min_eq_left h.declared_le]
  have hbyte (i : ℕ) (hi : i < declaredLength packet) :
      (packet.take (declaredLength packet))[i] = packet.getD i 0 := by
    rw [getElem_take, getD_eq (lt_of_lt_of_le hi h.declared_le)]
  have hfirst (rest : Bytes) (hpos : 0 < declaredLength packet) :
      (packet.take (declaredLength packet) ++ rest).getD 0 0 = packet.getD 0 0 := by
    rw [getD_eq (by rw [length_append]; omega), getElem_append_left (by omega),
      hbyte 0 hpos]
  have hfirst' (hpos : 0 < declaredLength packet) :
      (packet.take (declaredLength packet)).getD 0 0 = packet.getD 0 0 := by
    simpa only [append_nil] using hfirst [] hpos
  have hstart := h.start_le
  cases h.begins with
  | ipv4 hver _ _ hhead =>
    have hdecl : (ofBe16 (packet.getD 2 0) (packet.getD 3 0)).toNat = declaredLength packet := by
      rw [declaredLength, if_pos hver]
    rw [parseTunPacketParts_ipv4 (by rw [hfirst back (by omega)]; exact hver),
      parseTunPacketParts_ipv4 (by rw [hfirst' (by omega)]; exact hver)]
    refine parseIpv4PacketParts_front (by omega) (by omega) (by omega) (by omega) ?_ ?_ ?_ back
    · rw [hbyte 0 (by omega)]
      exact hhead
    · rw [hbyte 0 (by omega), hfront]
      exact hstart
    · rw [hbyte 2 (by omega), hbyte 3 (by omega), hdecl, hfront]
  | ipv6 hver hloop _ =>
    have hdecl : 40 + (ofBe16 (packet.getD 4 0) (packet.getD 5 0)).toNat =
        declaredLength packet := by
      rw [declaredLength, hver, if_neg (by decide)]
    rw [parseTunPacketParts_ipv6 (by rw [hfirst back (by omega)]; exact hver),
      parseTunPacketParts_ipv6 (by rw [hfirst' (by omega)]; exact hver)]
    refine parseIpv6PacketParts_front (by omega) (by omega) (by omega) ?_ back
    rw [hbyte 4 (by omega), hbyte 5 (by omega), hdecl, hfront]

theorem parseTunPacketParts_trailing {parts : TunPacketParts}
    (h : parseTunPacketParts packet = .ok parts) (trailing : Bytes) :
    parseTunPacketParts (packet.take (declaredLength packet) ++ trailing) =
      parseTunPacketParts packet := by
  obtain ⟨start, hat⟩ := parseTunPacketParts_at h
  rw [parseTunPacketParts_front hat trailing,
    ← parseTunPacketParts_front hat (packet.drop (declaredLength packet)), take_append_drop]

/-! ### TCP and UDP -/

/-- The segment's payload begins a data offset after the transport header and ends where the IP
packet does. -/
structure TcpPayloadAt (packet : Bytes) (start : ℕ) (segment : TunTcpSegment) : Prop where
  headerLen : segment.headerLen = (packet.getD (start + 12) 0 >>> 4).toNat * 4
  inside : start + segment.headerLen ≤ declaredLength packet
  payload : segment.payload =
    (packet.take (declaredLength packet)).drop (start + segment.headerLen)

/-- The datagram's payload has the length its UDP header declares and ends inside the IP packet. -/
structure UdpPayloadAt (packet : Bytes) (start : ℕ) (udp : TunUdpPayload) : Prop where
  udpLength : 8 + udp.payload.length =
    (ofBe16 (packet.getD (start + 4) 0) (packet.getD (start + 5) 0)).toNat
  inside : start + (8 + udp.payload.length) ≤ declaredLength packet
  payload : udp.payload =
    ((packet.take (declaredLength packet)).drop (start + 8)).take udp.payload.length

theorem parseTunTcpSegment_at {seg : TunTcpSegment}
    (h : parseTunTcpSegment packet = .ok seg) :
    ∃ start tp, TransportAt packet start tp ∧ TcpPayloadAt packet start seg := by
  unfold parseTunTcpSegment at h
  split at h
  · cases h
  next flow tp hparts =>
    obtain ⟨start, hat⟩ : ∃ start, TransportAt packet start tp := parseTunPacketParts_at hparts
    have htp := hat.payload
    have hlength := hat.length
    have hstart := hat.start_le
    split at h
    · cases h
    split at h
    next hlen =>
      have hword : tp[12] = packet.getD (start + 12) 0 := hat.byte (by omega)
      dsimp only at h
      rw [hword] at h
      split at h
      · cases h
      split at h
      · cases h
      next hfits =>
        cases h
        refine ⟨start, tp, hat, rfl, ?_, ?_⟩
        · dsimp only
          omega
        · dsimp only
          rw [htp, drop_drop]
    · cases h

theorem parseTunUdpPayload_at {udp : TunUdpPayload} (h : parseTunUdpPayload packet = .ok udp) :
    ∃ start tp, TransportAt packet start tp ∧ UdpPayloadAt packet start udp := by
  unfold parseTunUdpPayload at h
  split at h
  · cases h
  next flow tp hparts =>
    obtain ⟨start, hat⟩ : ∃ start, TransportAt packet start tp := parseTunPacketParts_at hparts
    have htp := hat.payload
    have hlength := hat.length
    have hstart := hat.start_le
    split at h
    · cases h
    split at h
    next hlen =>
      have h4 : tp[4] = packet.getD (start + 4) 0 := hat.byte (by omega)
      have h5 : tp[5] = packet.getD (start + 5) 0 := hat.byte (by omega)
      dsimp only at h
      rw [h4, h5] at h
      split at h
      · cases h
      next hshort =>
        split at h
        · cases h
        next hfits =>
          cases h
          have hpay : ((tp.take (ofBe16 (packet.getD (start + 4) 0)
              (packet.getD (start + 5) 0)).toNat).drop 8).length =
                (ofBe16 (packet.getD (start + 4) 0) (packet.getD (start + 5) 0)).toNat - 8 := by
            rw [length_drop, length_take]
            omega
          refine ⟨start, tp, hat, ?_, ?_, ?_⟩
          · dsimp only
            omega
          · dsimp only
            omega
          · dsimp only
            rw [hpay, drop_take, htp, drop_drop]
    · cases h

theorem parseTunPacketParts_of_tcp {seg : TunTcpSegment}
    (h : parseTunTcpSegment packet = .ok seg) : ∃ parts, parseTunPacketParts packet = .ok parts := by
  cases hparts : parseTunPacketParts packet with
  | error error =>
    rw [parseTunTcpSegment, hparts] at h
    cases h
  | ok parts => exact ⟨parts, rfl⟩

theorem parseTunPacketParts_of_udp {udp : TunUdpPayload} (h : parseTunUdpPayload packet = .ok udp) :
    ∃ parts, parseTunPacketParts packet = .ok parts := by
  cases hparts : parseTunPacketParts packet with
  | error error =>
    rw [parseTunUdpPayload, hparts] at h
    cases h
  | ok parts => exact ⟨parts, rfl⟩

/-- Every parser returns, and what is parsed lies inside the declared length and depends on nothing
beyond it. -/
theorem parsing_stays_inside (packet : Bytes) :
    (checkedParseTunPacketFlow packet = returned (parseTunPacketFlow packet) ∧
      checkedParseTunTcpSegment packet = returned (parseTunTcpSegment packet) ∧
      checkedParseTunUdpPayload packet = returned (parseTunUdpPayload packet)) ∧
    (∀ totalLength state, 40 ≤ totalLength → totalLength ≤ packet.length →
      Relation.ReflTransGen (ExtensionLoop packet totalLength) (packet.getD 6 0, 40) state →
        state.2 ≤ totalLength ∧
        ∀ state', ExtensionLoop packet totalLength state state' → state.2 < state'.2) ∧
    (∀ flow, parseTunPacketFlow packet = .ok flow →
      (∃ start tp, TransportAt packet start tp) ∧
      ∀ trailing, parseTunPacketFlow (packet.take (declaredLength packet) ++ trailing) = .ok flow) ∧
    (∀ segment, parseTunTcpSegment packet = .ok segment →
      (∃ start tp, TransportAt packet start tp ∧ TcpPayloadAt packet start segment) ∧
      ∀ trailing,
        parseTunTcpSegment (packet.take (declaredLength packet) ++ trailing) = .ok segment) ∧
    ∀ udp, parseTunUdpPayload packet = .ok udp →
      (∃ start tp, TransportAt packet start tp ∧ UdpPayloadAt packet start udp) ∧
      ∀ trailing, parseTunUdpPayload (packet.take (declaredLength packet) ++ trailing) = .ok udp := by
  refine ⟨⟨checkedParseTunPacketFlow_eq packet, checkedParseTunTcpSegment_eq packet,
    checkedParseTunUdpPayload_eq packet⟩, ?_, ?_, ?_, ?_⟩
  · intro totalLength state hmin htotal hreach
    obtain ⟨-, hoff⟩ := extensionLoop_reaches htotal hmin hreach
    exact ⟨hoff, fun state' hturn => (extensionLoop_offset htotal hoff hturn).1⟩
  · intro flow h
    cases hparts : parseTunPacketParts packet with
    | error error =>
      rw [parseTunPacketFlow, hparts] at h
      cases h
    | ok parts =>
      obtain ⟨start, hat⟩ := parseTunPacketParts_at hparts
      refine ⟨⟨start, _, hat⟩, fun trailing => ?_⟩
      rw [parseTunPacketFlow, parseTunPacketParts_trailing hparts]
      exact h
  · intro segment h
    obtain ⟨parts, hparts⟩ := parseTunPacketParts_of_tcp h
    refine ⟨parseTunTcpSegment_at h, fun trailing => ?_⟩
    rw [parseTunTcpSegment, parseTunPacketParts_trailing hparts]
    exact h
  · intro udp h
    obtain ⟨parts, hparts⟩ := parseTunPacketParts_of_udp h
    refine ⟨parseTunUdpPayload_at h, fun trailing => ?_⟩
    rw [parseTunUdpPayload, parseTunPacketParts_trailing hparts]
    exact h

end KeliNative.Tun
