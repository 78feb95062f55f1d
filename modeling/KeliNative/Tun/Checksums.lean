import KeliNative.Lib.OnesComplement
import KeliNative.Tun.Packet

/-!
# Checksums of built packets

The words a receiver adds up, checksum fields included, come out as all ones.
-/

namespace KeliNative.Tun
open BigEndian OnesComplement
open List hiding sum

/-- `add_checksum_bytes` as a debug build runs it: nothing, once an addition overflows. -/
def checkedAddChecksumBytes (sum : UInt32) : Bytes → Option UInt32
  | b0 :: b1 :: rest =>
    if sum.toNat + (ofBe16 b0 b1).toUInt32.toNat < 2 ^ 32 then
      checkedAddChecksumBytes (sum + (ofBe16 b0 b1).toUInt32) rest
    else none
  | [last] =>
    if sum.toNat + (last.toUInt32 <<< 8).toNat < 2 ^ 32 then some (sum + (last.toUInt32 <<< 8))
    else none
  | [] => some sum

theorem ofBe16_toNat (b0 b1 : UInt8) : (ofBe16 b0 b1).toNat = b0.toNat * 256 + b1.toNat := by
  have h0 := b0.toNat_lt
  have h1 := b1.toNat_lt
  rw [ofBe16, UInt16.toNat_ofNat']
  omega

theorem shifted_toNat (last : UInt8) : (last.toUInt32 <<< 8).toNat = last.toNat * 256 := by
  have hlast := last.toNat_lt
  rw [UInt32.toNat_shiftLeft, UInt8.toNat_toUInt32, show (8 : UInt32).toNat % 32 = 8 from rfl,
    Nat.shiftLeft_eq]
  omega

theorem addChecksumBytes_exact (sum : UInt32) (bytes : Bytes)
    (hfit : sum.toNat + (words bytes).sum < 2 ^ 32) :
    checkedAddChecksumBytes sum bytes = some (addChecksumBytes sum bytes) ∧
      (addChecksumBytes sum bytes).toNat = sum.toNat + (words bytes).sum := by
  induction sum, bytes using addChecksumBytes.induct with
  | case1 sum b0 b1 rest ih =>
    have hword : (ofBe16 b0 b1).toUInt32.toNat = b0.toNat * 256 + b1.toNat := ofBe16_toNat b0 b1
    simp only [words, sum_cons] at hfit ⊢
    have hadd : (sum + (ofBe16 b0 b1).toUInt32).toNat = sum.toNat + (b0.toNat * 256 + b1.toNat) := by
      rw [UInt32.toNat_add, hword]
      omega
    obtain ⟨hchecked, hexact⟩ := ih (by omega)
    rw [checkedAddChecksumBytes, if_pos (by omega), addChecksumBytes]
    exact ⟨hchecked, by omega⟩
  | case2 sum last =>
    have hword := shifted_toNat last
    simp only [words, sum_cons, sum_nil, Nat.add_zero] at hfit ⊢
    rw [checkedAddChecksumBytes, if_pos (by omega), addChecksumBytes]
    refine ⟨rfl, ?_⟩
    rw [UInt32.toNat_add, hword]
    omega
  | case3 sum => exact ⟨rfl, rfl⟩

def checkedSum (sum : UInt32) (chunks : List Bytes) : Option UInt32 :=
  chunks.foldlM checkedAddChecksumBytes sum

def wordsTotal (chunks : List Bytes) : ℕ := (chunks.map fun chunk => (words chunk).sum).sum

theorem checkedSum_exact (chunks : List Bytes) (sum : UInt32)
    (hfit : sum.toNat + wordsTotal chunks < 2 ^ 32) :
    checkedSum sum chunks = some (chunks.foldl addChecksumBytes sum) ∧
      (chunks.foldl addChecksumBytes sum).toNat = sum.toNat + wordsTotal chunks := by
  induction chunks generalizing sum with
  | nil => exact ⟨rfl, rfl⟩
  | cons chunk rest ih =>
    simp only [wordsTotal, map_cons, sum_cons] at hfit
    obtain ⟨hchecked, hexact⟩ := addChecksumBytes_exact sum chunk (by omega)
    obtain ⟨hrest, htotal⟩ := ih (addChecksumBytes sum chunk) (by rw [wordsTotal]; omega)
    simp only [wordsTotal] at htotal
    simp only [checkedSum, foldlM_cons, hchecked, foldl_cons, wordsTotal, map_cons,
      sum_cons]
    exact ⟨hrest, by omega⟩

theorem foldChecksum_toNat (sum : UInt32) : (foldChecksum 2 sum).toNat = residue sum.toNat := by
  have hs := sum.toNat_lt
  have hfirst := carryOnce_toNat sum
  have hsecond := carryOnce_toNat (carryOnce sum)
  have hmax : (0xffff : UInt32).toNat = 65535 := rfl
  simp only [foldChecksum, UInt32.lt_iff_toNat_lt]
  apply eq_residue
  · split
    · split <;> omega
    · rfl
  · split
    · split <;> omega
    · omega
  · split
    · split <;> omega
    · exact Iff.rfl

theorem finishChecksum_toNat (sum : UInt32) :
    (finishChecksum sum).toNat = 65535 - residue sum.toNat := by
  have hle := residue_le sum.toNat
  have hfold := foldChecksum_toNat sum
  rw [finishChecksum, UInt16.toNat_not, UInt32.toNat_toUInt16, hfold,
    show UInt16.size = 65536 from rfl]
  omega

theorem residue_add_finishChecksum (sum : UInt32) :
    residue (sum.toNat + (finishChecksum sum).toNat) = 65535 := by
  rw [finishChecksum_toNat]
  exact residue_add_complement sum.toNat

theorem residue_add_nonzeroChecksum (sum : UInt32) :
    residue (sum.toNat + (nonzeroChecksum sum).toNat) = 65535 := by
  unfold nonzeroChecksum
  split
  next hzero =>
    have hones : residue sum.toNat = 65535 := by
      have h := congrArg UInt16.toNat hzero
      have hle := residue_le sum.toNat
      rw [finishChecksum_toNat, UInt16.toNat_zero] at h
      omega
    exact residue_add_ones hones
  next => exact residue_add_finishChecksum sum

theorem nonzeroChecksum_ne_zero (sum : UInt32) : nonzeroChecksum sum ≠ 0 := by
  unfold nonzeroChecksum
  split
  · decide
  next h => exact h

theorem words_be16 (w : UInt16) : words (be16 w) = [w.toNat] := by
  have hw := w.toNat_lt
  simp only [be16, words, UInt8.toNat_ofNat', List.cons.injEq, and_true]
  omega

theorem words_sum_field {front : Bytes} (heven : front.length % 2 = 0) (w : UInt16) (back : Bytes) :
    (words (front ++ be16 w ++ back)).sum = (words (front ++ be16 0 ++ back)).sum + w.toNat := by
  have hfield (v : UInt16) : (words (front ++ be16 v ++ back)).sum =
      (words front).sum + v.toNat + (words back).sum := by
    have hlen : (front ++ be16 v).length % 2 = 0 := by
      rw [length_append, be16_length]
      omega
    rw [words_append hlen, words_append heven, words_be16]
    simp only [sum_append, sum_singleton]
  rw [hfield, hfield, UInt16.toNat_zero]
  omega

theorem sum_field_eq_ones {front back : Bytes} (heven : front.length % 2 = 0) {w : UInt16}
    (h : residue ((words (front ++ be16 0 ++ back)).sum + w.toNat) = 65535) :
    sum (words (front ++ be16 w ++ back)) = 65535 := by
  rw [sum_eq_residue (words_le _), words_sum_field heven]
  exact h

def ipv4Chunks (protocol : TunTransportProtocol) (sourceIp destinationIp : Ipv4Addr)
    (datagram : Bytes) : List Bytes :=
  [sourceIp.octets, destinationIp.octets, [0, protocol.ipProtocolNumber],
    be16 (UInt16.ofNat datagram.length), datagram]

def ipv6Chunks (protocol : TunTransportProtocol) (sourceIp destinationIp : Ipv6Addr)
    (datagram : Bytes) : List Bytes :=
  [sourceIp.octets, destinationIp.octets, be32 (UInt32.ofNat datagram.length),
    [0, 0, 0, protocol.ipProtocolNumber], datagram]

theorem tcpChecksumIpv4_eq (src dst : Ipv4Addr) (seg : Bytes) :
    tcpChecksumIpv4 src dst seg =
      finishChecksum ((ipv4Chunks .tcp src dst seg).foldl addChecksumBytes 0) := rfl

theorem tcpChecksumIpv6_eq (src dst : Ipv6Addr) (seg : Bytes) :
    tcpChecksumIpv6 src dst seg =
      finishChecksum ((ipv6Chunks .tcp src dst seg).foldl addChecksumBytes 0) := rfl

theorem udpChecksumIpv4_eq (src dst : Ipv4Addr) (dgram : Bytes) :
    udpChecksumIpv4 src dst dgram =
      nonzeroChecksum ((ipv4Chunks .udp src dst dgram).foldl addChecksumBytes 0) := rfl

theorem udpChecksumIpv6_eq (src dst : Ipv6Addr) (dgram : Bytes) :
    udpChecksumIpv6 src dst dgram =
      nonzeroChecksum ((ipv6Chunks .udp src dst dgram).foldl addChecksumBytes 0) := rfl

theorem ipv4Chunks_fit (protocol : TunTransportProtocol) (src dst : Ipv4Addr)
    {dgram : Bytes} (hlen : dgram.length ≤ 65535) :
    wordsTotal (ipv4Chunks protocol src dst dgram) < 2 ^ 32 := by
  have hs := words_sum_le src.octets
  have hd := words_sum_le dst.octets
  have hp := words_sum_le [0, protocol.ipProtocolNumber]
  have hl := words_sum_le (be16 (UInt16.ofNat dgram.length))
  have hdatagram := words_sum_le dgram
  simp only [Ipv4Addr.octets, be16_length, length_cons, length_nil] at hs hd hp hl
  simp only [wordsTotal, ipv4Chunks, map_cons, map_nil, sum_cons, sum_nil,
    Ipv4Addr.octets]
  omega

theorem ipv6Chunks_fit (protocol : TunTransportProtocol) (src dst : Ipv6Addr)
    {dgram : Bytes} (hlen : dgram.length ≤ 65535) :
    wordsTotal (ipv6Chunks protocol src dst dgram) < 2 ^ 32 := by
  have hs := words_sum_le src.octets
  have hd := words_sum_le dst.octets
  have hp := words_sum_le [0, 0, 0, protocol.ipProtocolNumber]
  have hl := words_sum_le (be32 (UInt32.ofNat dgram.length))
  have hdatagram := words_sum_le dgram
  simp only [src.octets_length, dst.octets_length, be32_length, length_cons,
    length_nil] at hs hd hp hl
  simp only [wordsTotal, ipv6Chunks, map_cons, map_nil, sum_cons, sum_nil]
  omega

theorem wordsTotal_flatten {chunks : List Bytes} (heven : ∀ chunk ∈ chunks, chunk.length % 2 = 0)
    (last : Bytes) : wordsTotal (chunks ++ [last]) = (words (chunks.flatten ++ last)).sum := by
  induction chunks with
  | nil => simp [wordsTotal]
  | cons chunk rest ih =>
    have hrest := ih fun other hother => heven other (mem_cons_of_mem _ hother)
    simp only [wordsTotal] at hrest
    simp only [wordsTotal, cons_append, map_cons, sum_cons, flatten_cons,
      append_assoc, words_append (heven chunk mem_cons_self), sum_append, hrest]

/-- The pseudo-header a receiver makes of an IPv4 packet whose header has no options. -/
def ipv4PseudoHeader (packet : Bytes) : Bytes :=
  (packet.drop 12).take 8 ++ [0, packet.getD 9 0] ++ be16 (UInt16.ofNat (packet.length - 20))

/-- The pseudo-header a receiver makes of an IPv6 packet without extension headers. -/
def ipv6PseudoHeader (packet : Bytes) : Bytes :=
  (packet.drop 8).take 32 ++ be32 (UInt32.ofNat (packet.length - 40)) ++
    [0, 0, 0, packet.getD 6 0]

structure Ipv4Verifies (packet : Bytes) : Prop where
  header : sum (words (packet.take 20)) = 0xffff
  transport : sum (words (ipv4PseudoHeader packet ++ packet.drop 20)) = 0xffff

structure Ipv6Verifies (packet : Bytes) : Prop where
  transport : sum (words (ipv6PseudoHeader packet ++ packet.drop 40)) = 0xffff

def ChecksumsVerify : TunIpVersion → Bytes → Prop
  | .ipv4 => Ipv4Verifies
  | .ipv6 => Ipv6Verifies

def udpChecksumField : TunIpVersion → Bytes → Bytes
  | .ipv4, packet => (packet.drop 26).take 2
  | .ipv6, packet => (packet.drop 46).take 2

section

variable (protocol : TunTransportProtocol) {front back : Bytes} {ck : UInt16}

theorem ipv4Header_eq (len : ℕ) (src dst : Ipv4Addr) (w : UInt16) :
    ipv4Header protocol len src dst w =
      [0x45, 0] ++ be16 (UInt16.ofNat len) ++ [0, 0, 0, 0, 64, protocol.ipProtocolNumber] ++
        be16 w ++ (src.octets ++ dst.octets) := append_assoc ..

theorem ipv4Header_sum (len : ℕ) (src dst : Ipv4Addr) :
    sum (words (ipv4Header protocol len src dst
      (checksum (ipv4Header protocol len src dst 0)))) = 65535 := by
  have hle := words_sum_le (ipv4Header protocol len src dst 0)
  rw [show (ipv4Header protocol len src dst 0).length = 20 from rfl] at hle
  have hexact := (addChecksumBytes_exact 0 (ipv4Header protocol len src dst 0)
    (by rw [UInt32.toNat_zero]; omega)).2
  have hones := residue_add_finishChecksum
    (addChecksumBytes 0 (ipv4Header protocol len src dst 0))
  rw [hexact, UInt32.toNat_zero, Nat.zero_add] at hones
  rw [ipv4Header_eq protocol len src dst (checksum _)]
  refine sum_field_eq_ones ?_ ?_
  · simp only [length_append, be16_length, length_cons, length_nil]
  rw [← ipv4Header_eq]
  exact hones

theorem flatten_even {chunks : List Bytes} (h : ∀ chunk ∈ chunks, chunk.length % 2 = 0) :
    chunks.flatten.length % 2 = 0 := by
  induction chunks with
  | nil => rfl
  | cons chunk rest ih =>
    have hfirst := h chunk mem_cons_self
    have hrest := ih fun other hother => h other (mem_cons_of_mem _ hother)
    rw [flatten_cons, length_append]
    omega

theorem datagram_sum (chunks : List Bytes) (hchs : ∀ chunk ∈ chunks, chunk.length % 2 = 0)
    (hfront : front.length % 2 = 0)
    (hfit : wordsTotal (chunks ++ [front ++ be16 0 ++ back]) < 2 ^ 32)
    (hck : residue (((chunks ++ [front ++ be16 0 ++ back]).foldl addChecksumBytes 0).toNat +
      ck.toNat) = 65535) :
    sum (words (chunks.flatten ++ (front ++ be16 ck ++ back))) = 65535 := by
  have hexact := (checkedSum_exact (chunks ++ [front ++ be16 0 ++ back]) 0
    (by rw [UInt32.toNat_zero]; omega)).2
  rw [hexact, UInt32.toNat_zero, Nat.zero_add, wordsTotal_flatten hchs] at hck
  have heven : (chunks.flatten ++ front).length % 2 = 0 := by
    have hflatten := flatten_even hchs
    rw [length_append]
    omega
  have hassoc (w : UInt16) : chunks.flatten ++ (front ++ be16 w ++ back) =
      chunks.flatten ++ front ++ be16 w ++ back := by simp only [append_assoc]
  rw [hassoc] at hck ⊢
  exact sum_field_eq_ones heven hck

theorem ipv4_verifies (src dst : Ipv4Addr) (hfront : front.length % 2 = 0)
    (hlen : (front ++ be16 ck ++ back).length ≤ 65535)
    (hck : residue (((ipv4Chunks protocol src dst (front ++ be16 0 ++ back)).foldl
      addChecksumBytes 0).toNat + ck.toNat) = 65535) (len : ℕ) :
    Ipv4Verifies (ipv4Header protocol len src dst
      (checksum (ipv4Header protocol len src dst 0)) ++
        (front ++ be16 ck ++ back)) := by
  have hhead := ipv4Header_sum protocol len src dst
  generalize checksum (ipv4Header protocol len src dst 0) = w at hhead ⊢
  have hsame : (front ++ be16 0 ++ back).length = (front ++ be16 ck ++ back).length := by
    simp only [length_append, be16_length]
  have hdatagram := datagram_sum [src.octets, dst.octets,
    [0, protocol.ipProtocolNumber], be16 (UInt16.ofNat (front ++ be16 0 ++ back).length)]
    (by simp [Ipv4Addr.octets, be16]) hfront (ipv4Chunks_fit protocol src dst
      (by omega)) hck
  generalize front ++ be16 ck ++ back = datagram at *
  have hheaderLen : (ipv4Header protocol len src dst w).length = 20 := rfl
  constructor
  · rw [take_left' hheaderLen]
    exact hhead
  · have hpseudo : ipv4PseudoHeader (ipv4Header protocol len src dst w ++
        datagram) = [src.octets, dst.octets, [0, protocol.ipProtocolNumber],
          be16 (UInt16.ofNat datagram.length)].flatten := by
      simp [ipv4PseudoHeader, ipv4Header, be16, Ipv4Addr.octets]
    rw [hpseudo, drop_left' hheaderLen, ← hsame]
    exact hdatagram

theorem ipv6Header_length (plen : ℕ) (src dst : Ipv6Addr) :
    (ipv6Header protocol plen src dst).length = 40 := by
  simp only [ipv6Header, be16, length_append, length_cons, length_nil,
    src.octets_length, dst.octets_length]

theorem ipv6PseudoHeader_eq (plen : ℕ) (src dst : Ipv6Addr) (dgram : Bytes) :
    ipv6PseudoHeader (ipv6Header protocol plen src dst ++ dgram) =
      [src.octets, dst.octets, be32 (UInt32.ofNat dgram.length),
        [0, 0, 0, protocol.ipProtocolNumber]].flatten := by
  have haddresses : (src.octets ++ dst.octets).length = 32 := by
    rw [length_append, src.octets_length, dst.octets_length]
  have htake : List.take 32 (src.octets ++ (dst.octets ++ dgram)) =
      src.octets ++ dst.octets := by
    rw [← append_assoc, take_left' haddresses]
  have hlength : (ipv6Header protocol plen src dst ++ dgram).length - 40 =
      dgram.length := by
    rw [length_append, ipv6Header_length]
    omega
  rw [ipv6PseudoHeader, hlength]
  simp [ipv6Header, be16, htake]

theorem ipv6_verifies (src dst : Ipv6Addr) (hfront : front.length % 2 = 0)
    (hlen : (front ++ be16 ck ++ back).length ≤ 65535)
    (hck : residue (((ipv6Chunks protocol src dst (front ++ be16 0 ++ back)).foldl
      addChecksumBytes 0).toNat + ck.toNat) = 65535) (plen : ℕ) :
    Ipv6Verifies (ipv6Header protocol plen src dst ++
      (front ++ be16 ck ++ back)) := by
  have hsame : (front ++ be16 0 ++ back).length = (front ++ be16 ck ++ back).length := by
    simp only [length_append, be16_length]
  have hdatagram := datagram_sum [src.octets, dst.octets,
    be32 (UInt32.ofNat (front ++ be16 0 ++ back).length), [0, 0, 0, protocol.ipProtocolNumber]]
    (by simp [src.octets_length, dst.octets_length, be32]) hfront
    (ipv6Chunks_fit protocol src dst (by omega)) hck
  generalize front ++ be16 ck ++ back = datagram at *
  constructor
  rw [ipv6PseudoHeader_eq, drop_left' (ipv6Header_length protocol plen src
    dst), ← hsame]
  exact hdatagram

end

section

variable (sport dport : UInt16) (seq ack : UInt32)
  (flags : TunTcpFlags) (win : UInt16) (payload : Bytes)

theorem writeTcpSegment_eq (ck : UInt16) :
    writeTcpSegment sport dport seq ack flags win ck
      payload = be16 sport ++ be16 dport ++ be32 seq ++
        be32 ack ++ [dataOffsetByte flags, flags.bits.toUInt8] ++ be16 win ++
          be16 ck ++ (be16 0 ++ payload) := append_assoc ..

theorem tcpIpv4_verifies (src dst : Ipv4Addr) (hfit : payload.length ≤ maxTcpPayloadLen .ipv4) :
    Ipv4Verifies (buildIpv4TcpResponsePacket src dst sport dport
      seq ack flags win payload) := by
  have hones := residue_add_finishChecksum ((ipv4Chunks .tcp src dst
    (writeTcpSegment sport dport seq ack flags win 0
      payload)).foldl addChecksumBytes 0)
  rw [← tcpChecksumIpv4_eq] at hones
  simp only [maxTcpPayloadLen] at hfit
  simp only [buildIpv4TcpResponsePacket]
  generalize tcpChecksumIpv4 src dst _ = ck at hones ⊢
  rw [writeTcpSegment_eq] at hones ⊢
  refine ipv4_verifies .tcp src dst ?_ ?_ hones _
  · simp only [be16, be32, length_append, length_cons, length_nil]
  · simp only [be16, be32, length_append, length_cons, length_nil]
    omega

theorem tcpIpv6_verifies (src dst : Ipv6Addr) (hfit : payload.length ≤ maxTcpPayloadLen .ipv6) :
    Ipv6Verifies (buildIpv6TcpResponsePacket src dst sport dport
      seq ack flags win payload) := by
  have hones := residue_add_finishChecksum ((ipv6Chunks .tcp src dst
    (writeTcpSegment sport dport seq ack flags win 0
      payload)).foldl addChecksumBytes 0)
  rw [← tcpChecksumIpv6_eq] at hones
  simp only [maxTcpPayloadLen] at hfit
  simp only [buildIpv6TcpResponsePacket]
  generalize tcpChecksumIpv6 src dst _ = ck at hones ⊢
  rw [writeTcpSegment_eq] at hones ⊢
  refine ipv6_verifies .tcp src dst ?_ ?_ hones _
  · simp only [be16, be32, length_append, length_cons, length_nil]
  · simp only [be16, be32, length_append, length_cons, length_nil]
    omega

theorem udpIpv4_verifies (src dst : Ipv4Addr) (hfit : payload.length ≤ maxUdpPayloadLen .ipv4) :
    Ipv4Verifies (buildIpv4UdpResponsePacket src dst sport dport
      payload) := by
  have hones := residue_add_nonzeroChecksum ((ipv4Chunks .udp src dst
    (writeUdpDatagram sport dport 0 payload)).foldl addChecksumBytes 0)
  rw [← udpChecksumIpv4_eq] at hones
  simp only [maxUdpPayloadLen] at hfit
  simp only [buildIpv4UdpResponsePacket]
  generalize udpChecksumIpv4 src dst _ = ck at hones ⊢
  refine ipv4_verifies .udp src dst ?_ ?_ hones _
  · simp only [be16, length_append, length_cons, length_nil]
  · simp only [be16, length_append, length_cons, length_nil]
    omega

theorem udpIpv6_verifies (src dst : Ipv6Addr) (hfit : payload.length ≤ maxUdpPayloadLen .ipv6) :
    Ipv6Verifies (buildIpv6UdpResponsePacket src dst sport dport
      payload) := by
  have hones := residue_add_nonzeroChecksum ((ipv6Chunks .udp src dst
    (writeUdpDatagram sport dport 0 payload)).foldl addChecksumBytes 0)
  rw [← udpChecksumIpv6_eq] at hones
  simp only [maxUdpPayloadLen] at hfit
  simp only [buildIpv6UdpResponsePacket]
  generalize udpChecksumIpv6 src dst _ = ck at hones ⊢
  refine ipv6_verifies .udp src dst ?_ ?_ hones _
  · simp only [be16, length_append, length_cons, length_nil]
  · simp only [be16, length_append, length_cons, length_nil]
    omega

theorem be16_ne_zero {w : UInt16} (h : w ≠ 0) : be16 w ≠ [0, 0] := by
  intro hbytes
  have hword := congrArg (fun bytes => (words bytes).sum) hbytes
  simp only [words_be16, sum_singleton] at hword
  exact h (UInt16.toNat_inj.mp hword)

theorem udpIpv4_field (src dst : Ipv4Addr) :
    udpChecksumField .ipv4 (buildIpv4UdpResponsePacket src dst sport
      dport payload) ≠ [0, 0] := by
  have hfield : udpChecksumField .ipv4 (buildIpv4UdpResponsePacket src dst sport
      dport payload) = be16 (udpChecksumIpv4 src dst
        (writeUdpDatagram sport dport 0 payload)) := by
    simp only [udpChecksumField, buildIpv4UdpResponsePacket]
    generalize udpChecksumIpv4 src dst _ = ck
    generalize checksum _ = w
    simp [ipv4Header, writeUdpDatagram, be16, Ipv4Addr.octets]
  rw [hfield, udpChecksumIpv4_eq]
  exact be16_ne_zero (nonzeroChecksum_ne_zero _)

theorem udpIpv6_field (src dst : Ipv6Addr) :
    udpChecksumField .ipv6 (buildIpv6UdpResponsePacket src dst sport
      dport payload) ≠ [0, 0] := by
  have hfield : udpChecksumField .ipv6 (buildIpv6UdpResponsePacket src dst sport
      dport payload) = be16 (udpChecksumIpv6 src dst
        (writeUdpDatagram sport dport 0 payload)) := by
    simp only [udpChecksumField, buildIpv6UdpResponsePacket]
    generalize udpChecksumIpv6 src dst _ = ck
    rw [show 46 = 40 + 6 from rfl, ← drop_drop,
      drop_left' (ipv6Header_length .udp _ src dst)]
    simp [writeUdpDatagram, be16]
  rw [hfield, udpChecksumIpv6_eq]
  exact be16_ne_zero (nonzeroChecksum_ne_zero _)

end

theorem tcp_checksums {flow : TunPacketFlow} {seq ack : UInt32}
    {flags : TunTcpFlags} {win : UInt16} {payload pkt : Bytes}
    (h : buildTunTcpResponsePacket flow seq ack flags win payload =
      .ok pkt) : ChecksumsVerify flow.ipVersion pkt := by
  unfold buildTunTcpResponsePacket at h
  split at h
  · cases h
  split at h
  · cases h
  · cases h
  split at h
  next hver _ _ =>
    split at h
    · cases h
    next hfit =>
      cases h
      rw [hver]
      exact tcpIpv4_verifies _ _ _ _ _ _ _ _ _ (Nat.le_of_not_lt hfit)
  next hver _ _ =>
    split at h
    · cases h
    next hfit =>
      cases h
      rw [hver]
      exact tcpIpv6_verifies _ _ _ _ _ _ _ _ _ (Nat.le_of_not_lt hfit)
  · cases h

theorem udp_checksums {flow : TunPacketFlow} {payload pkt : Bytes}
    (h : buildTunUdpResponsePacket flow payload = .ok pkt) :
    ChecksumsVerify flow.ipVersion pkt ∧ udpChecksumField flow.ipVersion pkt ≠ [0, 0] := by
  unfold buildTunUdpResponsePacket at h
  split at h
  · cases h
  split at h
  · cases h
  · cases h
  split at h
  next hver _ _ =>
    split at h
    · cases h
    next hfit =>
      cases h
      rw [hver]
      exact ⟨udpIpv4_verifies _ _ _ _ _ (Nat.le_of_not_lt hfit), udpIpv4_field _ _ _ _ _⟩
  next hver _ _ =>
    split at h
    · cases h
    next hfit =>
      cases h
      rw [hver]
      exact ⟨udpIpv6_verifies _ _ _ _ _ (Nat.le_of_not_lt hfit), udpIpv6_field _ _ _ _ _⟩
  · cases h

theorem checkedSum_map (finish : UInt32 → UInt16) {chunks : List Bytes}
    (hfit : wordsTotal chunks < 2 ^ 32) :
    (checkedSum 0 chunks).map finish = some (finish (chunks.foldl addChecksumBytes 0)) := by
  rw [(checkedSum_exact chunks 0 (by rw [UInt32.toNat_zero]; omega)).1]
  rfl

/-- Every checksum of a built packet verifies, and the accumulators behind them do not overflow. -/
theorem response_checksums_verify :
    (∀ (flow : TunPacketFlow) (sequenceNumber acknowledgmentNumber : UInt32) (flags : TunTcpFlags)
      (windowSize : UInt16) (payload packet : Bytes),
      buildTunTcpResponsePacket flow sequenceNumber acknowledgmentNumber flags windowSize payload =
        .ok packet → ChecksumsVerify flow.ipVersion packet) ∧
    (∀ (flow : TunPacketFlow) (payload packet : Bytes),
      buildTunUdpResponsePacket flow payload = .ok packet →
        ChecksumsVerify flow.ipVersion packet ∧ udpChecksumField flow.ipVersion packet ≠ [0, 0]) ∧
    ∀ bytes : Bytes, bytes.length ≤ 65535 →
      (checkedSum 0 [bytes]).map finishChecksum = some (checksum bytes) ∧
      (∀ sourceIp destinationIp,
        (checkedSum 0 (ipv4Chunks .tcp sourceIp destinationIp bytes)).map finishChecksum =
          some (tcpChecksumIpv4 sourceIp destinationIp bytes) ∧
        (checkedSum 0 (ipv4Chunks .udp sourceIp destinationIp bytes)).map nonzeroChecksum =
          some (udpChecksumIpv4 sourceIp destinationIp bytes)) ∧
      ∀ sourceIp destinationIp,
        (checkedSum 0 (ipv6Chunks .tcp sourceIp destinationIp bytes)).map finishChecksum =
          some (tcpChecksumIpv6 sourceIp destinationIp bytes) ∧
        (checkedSum 0 (ipv6Chunks .udp sourceIp destinationIp bytes)).map nonzeroChecksum =
          some (udpChecksumIpv6 sourceIp destinationIp bytes) := by
  refine ⟨fun _ _ _ _ _ _ _ => tcp_checksums, fun _ _ _ => udp_checksums, fun bytes hlen => ?_⟩
  have hbytes : wordsTotal [bytes] < 2 ^ 32 := by
    have hle := words_sum_le bytes
    simp only [wordsTotal, List.map_cons, List.map_nil, List.sum_cons, List.sum_nil]
    omega
  refine ⟨checkedSum_map _ hbytes, fun sourceIp destinationIp => ⟨?_, ?_⟩,
    fun sourceIp destinationIp => ⟨?_, ?_⟩⟩
  · exact checkedSum_map _ (ipv4Chunks_fit .tcp sourceIp destinationIp hlen)
  · exact checkedSum_map _ (ipv4Chunks_fit .udp sourceIp destinationIp hlen)
  · exact checkedSum_map _ (ipv6Chunks_fit .tcp sourceIp destinationIp hlen)
  · exact checkedSum_map _ (ipv6Chunks_fit .udp sourceIp destinationIp hlen)

/-- A datagram that has a packet and so a verified checksum. -/
theorem response_checksums_verify_query :
    let flow : TunPacketFlow :=
      ⟨.ipv4, .udp, .v4 ⟨10, 0, 0, 2⟩, .v4 ⟨1, 1, 1, 1⟩, some 40000, some 53⟩
    ∃ packet, buildTunUdpResponsePacket flow [1, 2, 3] = .ok packet ∧
      ChecksumsVerify .ipv4 packet ∧ udpChecksumField .ipv4 packet ≠ [0, 0] := by
  intro flow
  have hpkt : buildTunUdpResponsePacket flow [1, 2, 3] = .ok
      (buildIpv4UdpResponsePacket ⟨1, 1, 1, 1⟩ ⟨10, 0, 0, 2⟩ 53 40000 [1, 2, 3]) := rfl
  exact ⟨_, hpkt, response_checksums_verify.2.1 flow [1, 2, 3] _ hpkt⟩

end KeliNative.Tun
